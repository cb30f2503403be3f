import Scriptlet.Atom

/-!
# Script trees

A script is a tree of nodes, as a reader of script text would hand it over. Every node of the twelve
kinds of expression carries the line it came from, which only diagnostics look at. Where a node is
expected, a whole script or nothing at all may stand as well; neither has a line, and neither can be
evaluated or shown.
-/

namespace Scriptlet

/-- A node of a script tree. -/
inductive Node where
  /-- Instructions, evaluated in order. -/
  | block (body : List Node) (line : Int)
  /-- A constant. -/
  | literal (value : Atom) (line : Int)
  /-- A call without receiver. -/
  | call (callee : Node) (args : List Node) (line : Int)
  /-- The value of a name in scope. -/
  | var (name : String) (line : Int)
  /-- A binding in the current scope; with `declares` the name has to be free. -/
  | assign (name : String) (value : Node) (declares : Bool) (line : Int)
  /-- A function literal. -/
  | function (name : Option String) (params : List String) (body : Node) (line : Int)
  /-- The end of the function at hand, with its result. -/
  | ret (value : Node) (line : Int)
  /-- A choice between two branches. -/
  | cond (test yes no : Node) (line : Int)
  /-- A new object with its fields. -/
  | object (fields : List (String × Node)) (line : Int)
  /-- The value of a field. -/
  | field (receiver : Node) (name : String) (line : Int)
  /-- A binding of a field. -/
  | setField (receiver : Node) (name : String) (value : Node) (line : Int)
  /-- A call of a field, with its owner as receiver. -/
  | method (receiver : Node) (name : String) (args : List Node) (line : Int)
  /-- A whole script in the place of a node. -/
  | script (body : Node)
  /-- Nothing in the place of a node. -/
  | absent

/-- The kinds of nodes. -/
inductive Node.Kind where
  | block
  | literal
  | call
  | var
  | assign
  | function
  | ret
  | cond
  | object
  | field
  | setField
  | method
  | script
  | absent
  deriving DecidableEq

/-- The word for a kind of node. -/
def Node.Kind.name : Node.Kind → String
  | .block => "Block"
  | .literal => "Literal"
  | .call => "FunCall"
  | .var => "LocalVarAccess"
  | .assign => "LocalVarAssignment"
  | .function => "Fun"
  | .ret => "Return"
  | .cond => "If"
  | .object => "New"
  | .field => "FieldAccess"
  | .setField => "FieldAssignment"
  | .method => "MethodCall"
  | .script => "Script"
  | .absent => "NoneType"

namespace Node

/-- The kind of a node. -/
def kind : Node → Kind
  | block .. => .block
  | literal .. => .literal
  | call .. => .call
  | var .. => .var
  | assign .. => .assign
  | function .. => .function
  | ret .. => .ret
  | cond .. => .cond
  | object .. => .object
  | field .. => .field
  | setField .. => .setField
  | method .. => .method
  | script .. => .script
  | absent => .absent

/-- The line a node came from, if it is an expression. -/
def line? : Node → Option Int
  | block _ l | literal _ l | call _ _ l | var _ l | assign _ _ _ l | function _ _ _ l | ret _ l
  | cond _ _ _ l | object _ l | field _ _ l | setField _ _ _ l | method _ _ _ l => some l
  | script _ | absent => none

/-- Exactly a whole script and an absent node have no line. -/
theorem line?_eq_none_iff {n : Node} : n.line? = none ↔ n.kind = .script ∨ n.kind = .absent := by
  cases n <;> simp [line?, kind]

end Node

/-- A function literal by itself: the code that a closure runs. -/
structure Function where
  name : Option String
  params : List String
  body : Node
  line : Int

namespace Function

/-- A function literal as the node it was. -/
def toNode (f : Function) : Node :=
  .function f.name f.params f.body f.line

/-- The name a function goes by; one that has none, or an empty one, is called a lambda. -/
def title (f : Function) : String :=
  match f.name with
  | none => "lambda"
  | some name => if name = "" then "lambda" else name

end Function

/-- What a reader of script text hands over. -/
structure Script where
  body : Node

end Scriptlet

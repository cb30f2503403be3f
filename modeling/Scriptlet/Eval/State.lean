import Scriptlet.Failure
import Scriptlet.Heap.Text
import Scriptlet.Printout

/-!
# The state of an evaluation

Evaluation changes the heap, makes signals, writes lines to the sink, and may chat about what it
does. It ends with a value or an error, and either way with the state it reached: nothing is undone
when an error passes.
-/

namespace Scriptlet

/-- What an evaluation changes. -/
structure State where
  heap : Heap
  /-- How many signals were made so far, which is the number of the next. -/
  signals : Nat
  /-- What was written to the sink, one text for each write. -/
  writes : List String
  /-- What was put out on the console. -/
  chatter : String

/-- A computation on the state. -/
abbrev Eval := EStateM Error State

namespace Eval

/-- A value by itself leaves the state as it is. -/
theorem pure_run (a : α) (s : State) : (pure a : Eval α) s = .ok a s := rfl

/-- What comes after a computation that ends in a value starts with the value, from the state it
left. -/
theorem bind_run_of_ok {x : Eval α} {s s' : State} {a : α} (h : x s = .ok a s') (f : α → Eval β) :
    (x >>= f) s = f a s' := by
  simp only [bind, EStateM.bind, h]

/-- Nothing comes after a computation that ends in an error. -/
theorem bind_run_of_error {x : Eval α} {s s' : State} {e : Error} (h : x s = .error e s')
    (f : α → Eval β) : (x >>= f) s = .error e s' := by
  simp only [bind, EStateM.bind, h]

/-- A computation that depends on the heap alone and may come to a fault. -/
def read (f : Heap → Except Fault α) : Eval α := fun s =>
  match f s.heap with
  | .ok a => .ok a s
  | .error fault => .error (.fault fault) s

/-- Makes a new object. -/
def new (object : Object) : Eval Ref := fun s =>
  .ok s.heap.next { s with heap := s.heap.push object }

/-- Binds a field of an object. -/
def register (r : Ref) (name : String) (value : Value) : Eval Unit := fun s =>
  .ok () { s with heap := s.heap.register r name value }

/-- The value of a name as seen from an object. -/
def lookup (r : Ref) (name : String) : Eval Value := fun s =>
  .ok (s.heap.lookup r name) s

/-- Makes a new signal that carries a value. -/
def signal (value : Value) : Eval Value := fun s =>
  .ok (.returning s.signals value) { s with signals := s.signals + 1 }

/-- Writes to the sink. -/
def write (text : String) : Eval Unit := fun s =>
  .ok () { s with writes := s.writes ++ [text] }

/-- Puts a printout on the console, and surfaces the fault that cut it short. -/
def chat (out : Printout) : Eval Unit := fun s =>
  match out.fault with
  | none => .ok () { s with chatter := s.chatter ++ out.text }
  | some fault => .error (.fault fault) { s with chatter := s.chatter ++ out.text }

/-- Ends with a failure. -/
def fail (cause : Failure.Cause) (site : Option Node) : Eval α := fun s =>
  .error (.failure ⟨cause, site⟩) s

/-- Ends with a fault. -/
def fault (fault : Fault) : Eval α := fun s =>
  .error (.fault fault) s

/-- Gives a site to a failure that comes out without one. -/
def located (act : Eval α) (site : Node) : Eval α := fun s =>
  match act s with
  | .error (.failure f) s => .error (.failure (f.locate (some site))) s
  | other => other

end Eval

/-- A way to evaluate nodes in the scope of an object. -/
abbrev Evaluator := Node → Ref → Eval Value

end Scriptlet

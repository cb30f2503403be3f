import Scriptlet.Eval.Node
import Scriptlet.Global

/-!
# The bench

An embedder works on runtime objects step by step: it makes objects, binds and looks up fields,
invokes functions, and evaluates nodes in a scope of its choice. Each step leaves its result in the
next slot of the bench, and later steps name values by their slots. A step without a result, or one
that ends in an error, leaves the undefined value.

At the bench two values can be one and the same: equal atoms are, an object is the same as itself
only, and so is a signal, whatever else carries the same value.
-/

namespace Scriptlet

/-- The values at hand, by slot, the objects behind them, and how many signals were made. -/
structure Bench where
  heap : Heap
  signals : Nat
  slots : Array Value

namespace Bench

/-- A step at the bench. Numbers name slots. -/
inductive Step where
  | value (a : Atom)
  /-- Makes an environment, with a parent or with none. -/
  | environment (parent : Option Nat)
  | object
  /-- Makes a closure over any value. -/
  | closure (code : Function) (captured : Nat)
  | primitive (name : String) (host : Host) (arity : Option Int)
  /-- Makes a global scope. -/
  | global
  | register (object : Nat) (name : String) (value : Nat)
  | lookup (object : Nat) (name : String)
  | invoke (callee receiver : Nat) (args : List Nat)
  | evaluate (n : Node) (env : Nat)
  /-- The plain text of a value. -/
  | text (slot : Nat)
  /-- The quoted text of a value. -/
  | quoted (slot : Nat)
  /-- Whether two values are one and the same. -/
  | same (left right : Nat)
  /-- Gives the undefined value an attribute, or tries to. -/
  | setAttribute

/-- The outcome of a step, what it wrote to the sink, and the bench after it. -/
structure Outcome where
  result : Except Error Value
  writes : List String
  bench : Bench

/-- A bench with nothing on it. -/
def empty : Bench := ⟨.empty, 0, #[]⟩

/-- The value in a slot. -/
def slot (b : Bench) (i : Nat) : Value :=
  b.slots.getD i .undefined

/-- The runtime object in a slot; anything else there is misuse. -/
def objectAt (b : Bench) (i : Nat) : Eval Ref :=
  .read fun h =>
    match h.object? (b.slot i) with
    | some r => .ok r
    | none => .error .misuse

/-- The parent for a new environment: no slot means none, and a slot has to hold an environment or
null. -/
def parentAt (b : Bench) (i : Option Nat) : Eval (Option Ref) :=
  .read fun h =>
    match i with
    | none => .ok none
    | some i =>
      match h.scope? (b.slot i) with
      | some parent => .ok parent
      | none => .error .misuse

/-- What a step does. Evaluations are nested at most so deep. -/
def perform (depth : Nat) (b : Bench) : Step → Eval Value
  | .value a => return .atom a
  | .environment parent => do
    let parent ← b.parentAt parent
    return .ref (← .new ⟨.environment parent, []⟩)
  | .object => return .ref (← .new ⟨.plain, []⟩)
  | .closure code captured => return .ref (← .new ⟨.closure code (b.slot captured), []⟩)
  | .primitive name host arity => return .ref (← .new ⟨.primitive name host arity, []⟩)
  | .global => fun s => .ok (.ref s.heap.next) { s with heap := Global.prepare s.heap }
  | .register object name value => do
    let r ← b.objectAt object
    .register r name (b.slot value)
    return .undefined
  | .lookup object name => do
    let r ← b.objectAt object
    .lookup r name
  | .invoke callee receiver args => do
    let r ← b.objectAt callee
    .invoke false (Scriptlet.evaluate false depth) r (b.slot receiver) (args.map b.slot)
  | .evaluate n env => do
    let r ← b.objectAt env
    Scriptlet.evaluate false depth n r
  | .text i => do
    let text ← .read fun h => h.text (b.slot i)
    return .str text
  | .quoted i => do
    let text ← .read fun h => h.quoted (b.slot i)
    return .str text
  | .same i j => return .ofBool (b.slot i = b.slot j)
  | .setAttribute => .fault .undefinedIsImmutable

/-- Takes a step. -/
def step (depth : Nat) (b : Bench) (step : Step) : Outcome :=
  match b.perform depth step ⟨b.heap, b.signals, [], ""⟩ with
  | .ok v s => ⟨.ok v, s.writes, ⟨s.heap, s.signals, b.slots.push v⟩⟩
  | .error e s => ⟨.error e, s.writes, ⟨s.heap, s.signals, b.slots.push .undefined⟩⟩

end Bench

end Scriptlet

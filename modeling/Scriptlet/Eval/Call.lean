import Scriptlet.Eval.State
import Scriptlet.Operator.Apply

/-!
# Calls

What happens when a runtime object is invoked with a receiver and arguments. The number of arguments
is checked first. A closure then evaluates its body in a new environment, which lies in the scope
that the closure was made in and binds the receiver and the arguments; a primitive runs its host
routine. Nothing else can be invoked. The evaluation of bodies is a parameter here, and so is
whether prints are also traced on the console (`chatty`).
-/

namespace Scriptlet

/-- What a call binds in its frame: the receiver, then each argument under the name of its
parameter. The last of several parameters of one name wins. -/
def Function.bindings (f : Function) (receiver : Value) (args : List Value) : Fields :=
  (f.params.zip args).foldl (fun fields binding => fields.insert binding.1 binding.2)
    [("this", receiver)]

namespace Heap

/-- What stands for the scope around the frames of a closure: an environment, or null for none. -/
def scope? (h : Heap) : Value → Option (Option Ref)
  | .ref r =>
    match h.kind? r with
    | some (.environment _) => some (some r)
    | _ => none
  | .atom .null => some none
  | _ => none

/-- The runtime object behind a value. -/
def object? (h : Heap) : Value → Option Ref
  | .ref r => if r.index < h.size then some r else none
  | _ => none

/-- The function behind a value. -/
def function? (h : Heap) : Value → Option Ref
  | .ref r =>
    match h.kind? r with
    | some (.closure ..) | some (.primitive ..) => some r
    | _ => none
  | _ => none

end Heap

/-- The trace of a print: the quoted texts of its arguments as a list. -/
def Heap.printTrace (h : Heap) (args : List Value) : Printout :=
  .line [.ok "print called with",
    (h.quotedAll args).map fun texts => "[" ++ String.intercalate ", " texts ++ "]"]

namespace Eval

/-- Puts the trace of a print on the console, if that is asked for. -/
def tracePrint (chatty : Bool) (args : List Value) : Eval Unit :=
  if chatty then do
    let trace ← read fun h => .ok (h.printTrace args)
    chat trace
  else return ()

/-- Writes values as a line to the sink, blanks between their plain texts. -/
def print (chatty : Bool) (args : List Value) : Eval Value := do
  tracePrint chatty args
  let texts ← read fun h => h.textAll args
  write (String.intercalate " " texts ++ "\n")
  return .undefined

/-- Runs a routine of the host. -/
def runHost (chatty : Bool) (host : Host) (args : List Value) : Eval Value :=
  match host with
  | .operator op =>
    match args with
    | [v, w] => read fun h => h.apply op v w
    | args => fault (.operandCount args.length)
  | .print => print chatty args
  | .count => return .int args.length
  | .last =>
    match args.getLast? with
    | some v => return v
    | none => fault (.operandCount 0)
  | .fail => fail .hostGaveUp none

/-- Refuses a call of a primitive with the wrong number of arguments. The message says how many it
asks for. -/
def refuse (name : String) (expected : Int) (got : Nat) : Eval Value := do
  let _ ← read fun _ => Fault.written (Text.decimal? expected)
  fail (.wrongCount name expected got) none

/-- Runs the body of a function in a new frame. -/
def enter (self : Evaluator) (code : Function) (captured receiver : Value) (args : List Value) :
    Eval Value := do
  if args.length = code.params.length then
    match ← read fun h => .ok (h.scope? captured) with
    | some parent =>
      let frame ← new ⟨.environment parent, code.bindings receiver args⟩
      let v ← self code.body frame
      return v.result
    | none => fault .misuse
  else
    fail (.wrongCount code.title code.params.length args.length) (some code.toNode)

/-- Invokes a runtime object. -/
def invoke (chatty : Bool) (self : Evaluator) (callee : Ref) (receiver : Value)
    (args : List Value) : Eval Value := do
  match ← read fun h => .ok (h.kind? callee) with
  | some (.closure code captured) => enter self code captured receiver args
  | some (.primitive name host arity) =>
    match arity with
    | none => runHost chatty host args
    | some expected =>
      if (args.length : Int) = expected then runHost chatty host args
      else refuse name expected args.length
  | _ =>
    let shown ← read fun h => h.objectText callee
    fail (.notCallable shown) none

end Eval

end Scriptlet

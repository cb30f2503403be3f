import Scriptlet.Eval.Call

/-!
# Evaluation

One rule for each kind of node, with the evaluation of the nodes inside as a parameter
(`Eval.node`), and the evaluator that ties the knot within a limit on the depth of nesting
(`evaluate`). Parts are evaluated in order, and each check comes as early as it can: a callee before
its arguments, the owner of a field before the value for it, a declared name before its initializer.
A `return` yields a signal; a block stops at the first one, and a call unwraps it.
-/

namespace Scriptlet

namespace Eval

/-- Evaluates instructions in order, up to the first that yields a signal. -/
def instructions (self : Evaluator) (env : Ref) : List Node → Eval Value
  | [] => return .undefined
  | first :: rest => do
    match ← self first env with
    | .returning signal v => return .returning signal v
    | _ => instructions self env rest

/-- Evaluates arguments in order. -/
def arguments (self : Evaluator) (env : Ref) : List Node → Eval (List Value)
  | [] => return []
  | first :: rest => do
    let v ← self first env
    let vs ← arguments self env rest
    return v :: vs

/-- Evaluates initializers in order and binds each in an object as soon as it has its value. -/
def initializers (self : Evaluator) (env object : Ref) : List (String × Node) → Eval Unit
  | [] => return ()
  | (name, init) :: rest => do
    let v ← self init env
    register object name v
    initializers self env object rest

/-- Fails if a name that is to be declared is bound. One bound to the undefined value counts as
free. -/
def demandFree (declares : Bool) (env : Ref) (name : String) (site : Node) : Eval Unit :=
  if declares then do
    let bound ← lookup env name
    if bound = .undefined then return ()
    else fail (.duplicate name) (some site)
  else return ()

/-- Binds a function under its name, if it has one. -/
def registerNamed (env : Ref) (name : Option String) (f : Ref) : Eval Unit :=
  match name with
  | some name => register env name (.ref f)
  | none => return ()

/-- A value as a runtime object. -/
def asObject (value : Value) (site : Node) : Eval Ref := do
  match ← read fun h => .ok (h.object? value) with
  | some r => return r
  | none =>
    let shown ← read fun h => h.text value
    fail (.notObject shown) (some site)

/-- Calls a value: it has to be a function before the arguments are looked at. A failure of the call
itself that has no site gets this one. -/
def call (chatty : Bool) (self : Evaluator) (env : Ref) (receiver callee : Value)
    (args : List Node) (site : Node) : Eval Value := do
  match ← read fun h => .ok (h.function? callee) with
  | some f =>
    let values ← arguments self env args
    (invoke chatty self f receiver values).located site
  | none =>
    let shown ← read fun h => h.text callee
    fail (.notCallable shown) (some site)

/-- The rule for each kind of node. -/
def node (chatty : Bool) (self : Evaluator) (n : Node) (env : Ref) : Eval Value :=
  match n with
  | .block body _ => instructions self env body
  | .literal a _ => return .atom a
  | .call callee args _ => do
    let f ← self callee env
    call chatty self env .undefined f args n
  | .var name _ => lookup env name
  | .assign name value declares _ => do
    demandFree declares env name n
    let v ← self value env
    register env name v
    return .undefined
  | .function name params body line => do
    let f ← new ⟨.closure ⟨name, params, body, line⟩ (.ref env), []⟩
    registerNamed env name f
    return .ref f
  | .ret value _ => do
    let v ← self value env
    signal v
  | .cond test yes no _ => do
    match ← self test env with
    | .atom (.int i) => self (if i ≠ 0 then yes else no) env
    | v =>
      let shown ← read fun h => h.text v
      fail (.notBoolean shown) (some n)
  | .object fields _ => do
    let object ← new ⟨.plain, []⟩
    initializers self env object fields
    return .ref object
  | .field receiver name _ => do
    let v ← self receiver env
    let owner ← asObject v n
    lookup owner name
  | .setField receiver name value _ => do
    let v ← self receiver env
    let owner ← asObject v n
    let w ← self value env
    register owner name w
    return .undefined
  | .method receiver name args _ => do
    let v ← self receiver env
    let owner ← asObject v n
    let f ← lookup owner name
    call chatty self env (.ref owner) f args n
  | .script _ => fault .notExpression
  | .absent => fault .notExpression

end Eval

/-- Evaluates nodes, nested at most so deep. -/
def evaluate (chatty : Bool) : Nat → Evaluator
  | 0 => fun _ _ => throw .tooDeep
  | depth + 1 => fun n env => Eval.node chatty (evaluate chatty depth) n env

end Scriptlet

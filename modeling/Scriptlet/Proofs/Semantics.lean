import Scriptlet.Proofs.Eval.Operations

/-!
# The meaning of scripts

What evaluation comes to, without any limit on the depth: an inductive relation between what there is
to do in a state and how it ends (`Task.Ends`). There is a rule for each way that a node can end, and
rules for the lists of nodes inside, for calls and for invocations. Parts are taken in order, each
starting in the state that the one before it has reached. An error in a part is how the whole ends,
in the state reached so far.

What has no end has no rule, so the relation never speaks of too deep a nesting.
-/

namespace Scriptlet

/-- The error of a check that shows a value: the failure with its text, or the fault of showing it. -/
def Error.showing (shown : Except Fault String) (cause : String → Failure.Cause)
    (site : Option Node) : Error :=
  match shown with
  | .ok text => .failure ⟨cause text, site⟩
  | .error f => .fault f

/-- Something that has to be evaluated. -/
inductive Task where
  | node (n : Node) (env : Ref)
  /-- The instructions of a block. -/
  | instructions (body : List Node) (env : Ref)
  /-- The arguments of a call. -/
  | arguments (args : List Node) (env : Ref)
  /-- The initializers of a new object. -/
  | initializers (fields : List (String × Node)) (object env : Ref)
  /-- A call whose callee is known, on behalf of a node. -/
  | call (site : Node) (receiver callee : Value) (args : List Node) (env : Ref)
  /-- An invocation of a runtime object. -/
  | invocation (callee : Ref) (receiver : Value) (args : List Value)

namespace Task

/-- What a task yields: a list of values for arguments, nothing for initializers, else a value. -/
@[reducible]
def Answer : Task → Type
  | node .. | instructions .. | call .. | invocation .. => Value
  | arguments .. => List Value
  | initializers .. => Unit

/-- How a task ends that is begun in a state. -/
inductive Ends (chatty : Bool) : (task : Task) → State → Result task.Answer → Prop where
  -- instructions, up to the first that yields a signal
  | block {body line env s r} :
    Ends chatty (.instructions body env) s r →
    Ends chatty (.node (.block body line) env) s r
  | finished {env s} :
    Ends chatty (.instructions [] env) s (.ok .undefined s)
  | returned {first rest env s signal v t} :
    Ends chatty (.node first env) s (.ok (.returning signal v) t) →
    Ends chatty (.instructions (first :: rest) env) s (.ok (.returning signal v) t)
  | continued {first rest env s v t r} :
    Ends chatty (.node first env) s (.ok v t) →
    (∀ signal w, v ≠ .returning signal w) →
    Ends chatty (.instructions rest env) t r →
    Ends chatty (.instructions (first :: rest) env) s r
  | instructionError {first rest env s e t} :
    Ends chatty (.node first env) s (.error e t) →
    Ends chatty (.instructions (first :: rest) env) s (.error e t)
  -- constants and names
  | literal {a line env s} :
    Ends chatty (.node (.literal a line) env) s (.ok (.atom a) s)
  | var {name line env s} :
    Ends chatty (.node (.var name line) env) s (.ok (s.heap.lookup env name) s)
  -- a name that is declared has to be free, which is checked before the initializer
  | duplicate {name value line env s} :
    s.heap.lookup env name ≠ .undefined →
    Ends chatty (.node (.assign name value true line) env) s
      (.error (.failure ⟨.duplicate name, some (.assign name value true line)⟩) s)
  | assign {name value declares line env s v t} :
    (declares = true → s.heap.lookup env name = .undefined) →
    Ends chatty (.node value env) s (.ok v t) →
    Ends chatty (.node (.assign name value declares line) env) s
      (.ok .undefined { t with heap := t.heap.register env name v })
  | assignError {name value declares line env s e t} :
    (declares = true → s.heap.lookup env name = .undefined) →
    Ends chatty (.node value env) s (.error e t) →
    Ends chatty (.node (.assign name value declares line) env) s (.error e t)
  -- function literals
  | lambda {params body line env s} :
    Ends chatty (.node (.function none params body line) env) s
      (.ok (.ref s.heap.next)
        { s with heap := s.heap.push ⟨.closure ⟨none, params, body, line⟩ (.ref env), []⟩ })
  | function {name params body line env s} :
    Ends chatty (.node (.function (some name) params body line) env) s
      (.ok (.ref s.heap.next)
        { s with
          heap := (s.heap.push ⟨.closure ⟨some name, params, body, line⟩ (.ref env), []⟩).register
            env name (.ref s.heap.next) })
  -- signals
  | ret {value line env s v t} :
    Ends chatty (.node value env) s (.ok v t) →
    Ends chatty (.node (.ret value line) env) s
      (.ok (.returning t.signals v) { t with signals := t.signals + 1 })
  | retError {value line env s e t} :
    Ends chatty (.node value env) s (.error e t) →
    Ends chatty (.node (.ret value line) env) s (.error e t)
  -- choices
  | condYes {test yes no line env s i t r} :
    Ends chatty (.node test env) s (.ok (.int i) t) →
    i ≠ 0 →
    Ends chatty (.node yes env) t r →
    Ends chatty (.node (.cond test yes no line) env) s r
  | condNo {test yes no line env s t r} :
    Ends chatty (.node test env) s (.ok (.int 0) t) →
    Ends chatty (.node no env) t r →
    Ends chatty (.node (.cond test yes no line) env) s r
  | notBoolean {test yes no line env s v t} :
    Ends chatty (.node test env) s (.ok v t) →
    (∀ i, v ≠ .int i) →
    Ends chatty (.node (.cond test yes no line) env) s
      (.error (.showing (t.heap.text v) .notBoolean (some (.cond test yes no line))) t)
  | condError {test yes no line env s e t} :
    Ends chatty (.node test env) s (.error e t) →
    Ends chatty (.node (.cond test yes no line) env) s (.error e t)
  -- new objects, whose fields are bound one after the other
  | object {fields line env s t} :
    Ends chatty (.initializers fields s.heap.next env)
      { s with heap := s.heap.push ⟨.plain, []⟩ } (.ok () t) →
    Ends chatty (.node (.object fields line) env) s (.ok (.ref s.heap.next) t)
  | objectError {fields line env s e t} :
    Ends chatty (.initializers fields s.heap.next env)
      { s with heap := s.heap.push ⟨.plain, []⟩ } (.error e t) →
    Ends chatty (.node (.object fields line) env) s (.error e t)
  | initialized {object env s} :
    Ends chatty (.initializers [] object env) s (.ok () s)
  | initializer {name init rest object env s v t r} :
    Ends chatty (.node init env) s (.ok v t) →
    Ends chatty (.initializers rest object env)
      { t with heap := t.heap.register object name v } r →
    Ends chatty (.initializers ((name, init) :: rest) object env) s r
  | initializerError {name init rest object env s e t} :
    Ends chatty (.node init env) s (.error e t) →
    Ends chatty (.initializers ((name, init) :: rest) object env) s (.error e t)
  -- fields: the receiver has to be an object
  | field {receiver name line env s v t owner} :
    Ends chatty (.node receiver env) s (.ok v t) →
    t.heap.object? v = some owner →
    Ends chatty (.node (.field receiver name line) env) s (.ok (t.heap.lookup owner name) t)
  | fieldNotObject {receiver name line env s v t} :
    Ends chatty (.node receiver env) s (.ok v t) →
    t.heap.object? v = none →
    Ends chatty (.node (.field receiver name line) env) s
      (.error (.showing (t.heap.text v) .notObject (some (.field receiver name line))) t)
  | fieldError {receiver name line env s e t} :
    Ends chatty (.node receiver env) s (.error e t) →
    Ends chatty (.node (.field receiver name line) env) s (.error e t)
  -- the receiver is checked before the value for its field is evaluated
  | setField {receiver name value line env s v t owner w u} :
    Ends chatty (.node receiver env) s (.ok v t) →
    t.heap.object? v = some owner →
    Ends chatty (.node value env) t (.ok w u) →
    Ends chatty (.node (.setField receiver name value line) env) s
      (.ok .undefined { u with heap := u.heap.register owner name w })
  | setFieldValueError {receiver name value line env s v t owner e u} :
    Ends chatty (.node receiver env) s (.ok v t) →
    t.heap.object? v = some owner →
    Ends chatty (.node value env) t (.error e u) →
    Ends chatty (.node (.setField receiver name value line) env) s (.error e u)
  | setFieldNotObject {receiver name value line env s v t} :
    Ends chatty (.node receiver env) s (.ok v t) →
    t.heap.object? v = none →
    Ends chatty (.node (.setField receiver name value line) env) s
      (.error (.showing (t.heap.text v) .notObject (some (.setField receiver name value line))) t)
  | setFieldError {receiver name value line env s e t} :
    Ends chatty (.node receiver env) s (.error e t) →
    Ends chatty (.node (.setField receiver name value line) env) s (.error e t)
  -- calls of a field, with its owner as receiver
  | method {receiver name args line env s v t owner r} :
    Ends chatty (.node receiver env) s (.ok v t) →
    t.heap.object? v = some owner →
    Ends chatty
      (.call (.method receiver name args line) (.ref owner) (t.heap.lookup owner name) args env) t r →
    Ends chatty (.node (.method receiver name args line) env) s r
  | methodNotObject {receiver name args line env s v t} :
    Ends chatty (.node receiver env) s (.ok v t) →
    t.heap.object? v = none →
    Ends chatty (.node (.method receiver name args line) env) s
      (.error (.showing (t.heap.text v) .notObject (some (.method receiver name args line))) t)
  | methodError {receiver name args line env s e t} :
    Ends chatty (.node receiver env) s (.error e t) →
    Ends chatty (.node (.method receiver name args line) env) s (.error e t)
  -- calls without receiver
  | call {callee args line env s f t r} :
    Ends chatty (.node callee env) s (.ok f t) →
    Ends chatty (.call (.call callee args line) .undefined f args env) t r →
    Ends chatty (.node (.call callee args line) env) s r
  | calleeError {callee args line env s e t} :
    Ends chatty (.node callee env) s (.error e t) →
    Ends chatty (.node (.call callee args line) env) s (.error e t)
  -- the callee has to be a function, which is checked before its arguments are evaluated
  | notCallable {site receiver callee args env s} :
    s.heap.function? callee = none →
    Ends chatty (.call site receiver callee args env) s
      (.error (.showing (s.heap.text callee) .notCallable (some site)) s)
  | callArgumentsError {site receiver callee args env s f e t} :
    s.heap.function? callee = some f →
    Ends chatty (.arguments args env) s (.error e t) →
    Ends chatty (.call site receiver callee args env) s (.error e t)
  | invoked {site receiver callee args env s f vs t v u} :
    s.heap.function? callee = some f →
    Ends chatty (.arguments args env) s (.ok vs t) →
    Ends chatty (.invocation f receiver vs) t (.ok v u) →
    Ends chatty (.call site receiver callee args env) s (.ok v u)
  | invokedError {site receiver callee args env s f vs t e u} :
    s.heap.function? callee = some f →
    Ends chatty (.arguments args env) s (.ok vs t) →
    Ends chatty (.invocation f receiver vs) t (.error e u) →
    Ends chatty (.call site receiver callee args env) s (.error (e.locate site) u)
  | noArguments {env s} :
    Ends chatty (.arguments [] env) s (.ok [] s)
  | argument {first rest env s v t vs u} :
    Ends chatty (.node first env) s (.ok v t) →
    Ends chatty (.arguments rest env) t (.ok vs u) →
    Ends chatty (.arguments (first :: rest) env) s (.ok (v :: vs) u)
  | argumentError {first rest env s e t} :
    Ends chatty (.node first env) s (.error e t) →
    Ends chatty (.arguments (first :: rest) env) s (.error e t)
  | argumentsError {first rest env s v t e u} :
    Ends chatty (.node first env) s (.ok v t) →
    Ends chatty (.arguments rest env) t (.error e u) →
    Ends chatty (.arguments (first :: rest) env) s (.error e u)
  -- closures: the count of arguments, then the body in a frame in the captured scope, and one layer
  -- of a signal is taken off
  | wrongCount {callee receiver args code captured s} :
    s.heap.kind? callee = some (.closure code captured) →
    args.length ≠ code.params.length →
    Ends chatty (.invocation callee receiver args) s
      (.error (.failure ⟨.wrongCount code.title code.params.length args.length, some code.toNode⟩) s)
  | noScope {callee receiver args code captured s} :
    s.heap.kind? callee = some (.closure code captured) →
    args.length = code.params.length →
    s.heap.scope? captured = none →
    Ends chatty (.invocation callee receiver args) s (.error (.fault .misuse) s)
  | body {callee receiver args code captured parent s v t} :
    s.heap.kind? callee = some (.closure code captured) →
    args.length = code.params.length →
    s.heap.scope? captured = some parent →
    Ends chatty (.node code.body s.heap.next)
      { s with heap := s.heap.push ⟨.environment parent, code.bindings receiver args⟩ } (.ok v t) →
    Ends chatty (.invocation callee receiver args) s (.ok v.result t)
  | bodyError {callee receiver args code captured parent s e t} :
    s.heap.kind? callee = some (.closure code captured) →
    args.length = code.params.length →
    s.heap.scope? captured = some parent →
    Ends chatty (.node code.body s.heap.next)
      { s with heap := s.heap.push ⟨.environment parent, code.bindings receiver args⟩ }
      (.error e t) →
    Ends chatty (.invocation callee receiver args) s (.error e t)
  -- primitives, and what is no function at all
  | primitive {callee receiver args name host arity s} :
    s.heap.kind? callee = some (.primitive name host arity) →
    (∀ expected, arity = some expected → (args.length : Int) = expected) →
    Ends chatty (.invocation callee receiver args) s (Eval.runHost chatty host args s)
  | primitiveWrongCount {callee receiver args name host expected s} :
    s.heap.kind? callee = some (.primitive name host (some expected)) →
    (args.length : Int) ≠ expected →
    Ends chatty (.invocation callee receiver args) s
      (.error (.showing (Fault.written (Text.decimal? expected))
        (fun _ => .wrongCount name expected args.length) none) s)
  | notFunction {callee receiver args s} :
    s.heap.function? (.ref callee) = none →
    Ends chatty (.invocation callee receiver args) s
      (.error (.showing (s.heap.objectText callee) .notCallable none) s)
  -- what stands for a node but is none
  | script {body env s} :
    Ends chatty (.node (.script body) env) s (.error (.fault .notExpression) s)
  | absent {env s} :
    Ends chatty (.node .absent env) s (.error (.fault .notExpression) s)

end Task

end Scriptlet

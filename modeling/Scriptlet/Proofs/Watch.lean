import Mathlib.Tactic.Lemma
import Scriptlet.Interpret
import Scriptlet.Proofs.Eval.Operations
import Scriptlet.Proofs.Node.Occurrence

/-!
# Watched evaluation

The evaluator says how an evaluation ends; many laws are about what happens on the way. A watched
computation returns, besides its result, the moments that it went through: every operation that may
change the state leaves one, and so do the beginning and the end of each evaluation of a node, of
each invocation of a function, and of the life of each frame. Reading and failing leave none, for
the state stays as it is.

Main statements:
* `Watched.erase_evaluate`: without its moments, the watched evaluator is the evaluator.
* `Script.interpret_eq_ending`: a run of a script ends the way that its watched evaluation does.
-/

namespace Scriptlet

/-- A function about to be invoked by a node of the script. -/
structure Invocation where
  site : Node
  callee : Ref
  receiver : Value
  args : List Value

/-- What happens at a moment of an evaluation. -/
inductive Event where
  /-- The evaluation of a node begins. -/
  | enter (p : Node.Position) (n : Node) (scope : Ref)
  /-- The evaluation of a node ends. -/
  | leave (p : Node.Position) (n : Node) (scope : Ref) (outcome : Except Error Value)
  /-- An invocation begins. -/
  | invoke (c : Invocation)
  /-- An invocation ends. -/
  | answer (c : Invocation) (outcome : Except Error Value)
  /-- The body of a closure is entered with a new frame. -/
  | opened (frame : Ref)
  /-- The body of a closure is left for good. -/
  | closed (frame : Ref)
  /-- A field of an object was looked up or bound. -/
  | use (r : Ref)
  /-- Something else was done to the state. -/
  | step

/-- An event and the state right after it. -/
structure Moment where
  event : Event
  state : State

/-- A computation on the state, together with the moments that it goes through. -/
def Watched (α : Type) : Type :=
  State → List Moment × Result α

namespace Watched

/-- A watched computation without its moments. -/
def erase (x : Watched α) : Eval α := fun s => (x s).2

instance : Monad Watched where
  pure a := fun s => ([], .ok a s)
  bind x f := fun s =>
    match x s with
    | (l, .ok a s₁) => (l ++ (f a s₁).1, (f a s₁).2)
    | (l, .error e s₁) => (l, .error e s₁)

/-- After a computation that ends with a value, the next one starts where that one ended. -/
lemma bind_of_ok {x : Watched α} {s s₁ l a} (hx : x s = (l, .ok a s₁)) (f : α → Watched β) :
    (x >>= f) s = (l ++ (f a s₁).1, (f a s₁).2) := by
  simp only [Bind.bind, hx]

/-- After a computation that ends with an error, there is no next one. -/
lemma bind_of_error {x : Watched α} {s s₁ l e} (hx : x s = (l, .error e s₁)) (f : α → Watched β) :
    (x >>= f) s = (l, .error e s₁) := by
  simp only [Bind.bind, hx]

/-- A computation that leaves the state as it is. -/
def observe (x : Eval α) : Watched α := fun s => ([], x s)

/-- An operation on the state, with the moment after it. -/
def perform (event : Event) (x : Eval α) : Watched α := fun s =>
  ([⟨event, Eval.final (x s)⟩], x s)

/-- A computation with a moment before it and one after it, however it ends. -/
def between (before : Event) (after : Except Error α → Event) (x : Watched α) : Watched α :=
  fun s => (⟨before, s⟩ :: ((x s).1 ++ [⟨after (Eval.outcome (x s).2), Eval.final (x s).2⟩]), (x s).2)

/-- Gives a site to a failure that comes out without one. -/
def located (x : Watched α) (site : Node) : Watched α := fun s =>
  ((x s).1, x.erase.located site s)

end Watched

/-- A way to watch the evaluation of nodes, by their position, in the scope of an object. -/
abbrev Watcher := Node.Position → Node → Ref → Watched Value

namespace Watched

/-- Evaluates instructions at a position in order, up to the first that yields a signal. -/
def instructions (self : Watcher) (p : Node.Position) (env : Ref) : List Node → Watched Value
  | [] => return .undefined
  | first :: rest => do
    match ← self p first env with
    | .returning signal v => return .returning signal v
    | _ => instructions self p env rest

/-- Evaluates arguments in order. -/
def arguments (self : Watcher) (env : Ref) : List Node → Watched (List Value)
  | [] => return []
  | first :: rest => do
    let v ← self .operand first env
    let vs ← arguments self env rest
    return v :: vs

/-- Evaluates initializers in order and binds each in an object as soon as it has its value. -/
def initializers (self : Watcher) (env object : Ref) : List (String × Node) → Watched Unit
  | [] => return ()
  | (name, init) :: rest => do
    let v ← self .operand init env
    perform (.use object) (Eval.register object name v)
    initializers self env object rest

/-- Runs the body of a function in a new frame. -/
def enter (self : Watcher) (code : Function) (captured receiver : Value) (args : List Value) :
    Watched Value := do
  if args.length = code.params.length then
    match ← observe (Eval.read fun h => .ok (h.scope? captured)) with
    | some parent =>
      let frame ← perform .step (Eval.new ⟨.environment parent, code.bindings receiver args⟩)
      between (.opened frame) (fun _ => .closed frame) do
        let v ← self .statement code.body frame
        return v.result
    | none => observe (Eval.fault .misuse)
  else
    observe (Eval.fail (.wrongCount code.title code.params.length args.length) (some code.toNode))

/-- Invokes a runtime object. Whatever is no closure evaluates nothing in a call: a primitive whose
count of arguments is right runs as one operation, and all else fails. -/
def invoke (chatty : Bool) (self : Watcher) (callee : Ref) (receiver : Value)
    (args : List Value) : Watched Value := do
  match ← observe (Eval.read fun h => .ok (h.kind? callee)) with
  | some (.closure code captured) => enter self code captured receiver args
  | some (.primitive name host arity) =>
    match arity with
    | none => perform .step (Eval.runHost chatty host args)
    | some expected =>
      if (args.length : Int) = expected then perform .step (Eval.runHost chatty host args)
      else observe (Eval.refuse name expected args.length)
  | _ => observe do
    let shown ← Eval.read fun h => h.objectText callee
    Eval.fail (.notCallable shown) none

/-- Calls a value: it has to be a function before the arguments are looked at. -/
def call (chatty : Bool) (self : Watcher) (env : Ref) (receiver callee : Value)
    (args : List Node) (site : Node) : Watched Value := do
  match ← observe (Eval.read fun h => .ok (h.function? callee)) with
  | some f =>
    let values ← arguments self env args
    let c : Invocation := ⟨site, f, receiver, values⟩
    (between (.invoke c) (.answer c) (invoke chatty self f receiver values)).located site
  | none => observe do
    let shown ← Eval.read fun h => h.text callee
    Eval.fail (.notCallable shown) (some site)

/-- The rule for each kind of node. -/
def node (chatty : Bool) (self : Watcher) (p : Node.Position) (n : Node) (env : Ref) :
    Watched Value :=
  match n with
  | .block body _ => instructions self p env body
  | .literal a _ => return .atom a
  | .call callee args _ => do
    let f ← self .operand callee env
    call chatty self env .undefined f args n
  | .var name _ => perform (.use env) (Eval.lookup env name)
  | .assign name value declares _ => do
    perform (.use env) (Eval.demandFree declares env name n)
    let v ← self .operand value env
    perform (.use env) (Eval.register env name v)
    return .undefined
  | .function name params body line => do
    let f ← perform .step (Eval.new ⟨.closure ⟨name, params, body, line⟩ (.ref env), []⟩)
    perform (.use env) (Eval.registerNamed env name f)
    return .ref f
  | .ret value _ => do
    let v ← self .operand value env
    perform .step (Eval.signal v)
  | .cond test yes no _ => do
    match ← self .operand test env with
    | .atom (.int i) => self p (if i ≠ 0 then yes else no) env
    | v => observe do
      let shown ← Eval.read fun h => h.text v
      Eval.fail (.notBoolean shown) (some n)
  | .object fields _ => do
    let object ← perform .step (Eval.new ⟨.plain, []⟩)
    initializers self env object fields
    return .ref object
  | .field receiver name _ => do
    let v ← self .operand receiver env
    let owner ← observe (Eval.asObject v n)
    perform (.use owner) (Eval.lookup owner name)
  | .setField receiver name value _ => do
    let v ← self .operand receiver env
    let owner ← observe (Eval.asObject v n)
    let w ← self .operand value env
    perform (.use owner) (Eval.register owner name w)
    return .undefined
  | .method receiver name args _ => do
    let v ← self .operand receiver env
    let owner ← observe (Eval.asObject v n)
    let f ← perform (.use owner) (Eval.lookup owner name)
    call chatty self env (.ref owner) f args n
  | .script _ => observe (Eval.fault .notExpression)
  | .absent => observe (Eval.fault .notExpression)

/-- Evaluates nodes, nested at most so deep. -/
def evaluate (chatty : Bool) : Nat → Watcher
  | 0 => fun p n env => between (.enter p n env) (.leave p n env) (observe (throw .tooDeep))
  | depth + 1 => fun p n env =>
    between (.enter p n env) (.leave p n env) (node chatty (evaluate chatty depth) p n env)

/-- A value by itself is not watched. -/
@[simp]
lemma erase_pure (a : α) : (pure a : Watched α).erase = pure a := rfl

/-- Without the moments of two computations in a row, these are in a row. -/
@[simp]
lemma erase_bind (x : Watched α) (f : α → Watched β) :
    (x >>= f).erase = x.erase >>= fun a => (f a).erase := by
  funext s
  simp only [erase, bind, EStateM.bind]
  cases x s with
  | mk l r => cases r <;> rfl

/-- What is only observed is what it was. -/
@[simp]
lemma erase_observe (x : Eval α) : (observe x).erase = x := rfl

/-- What is performed is what it was. -/
@[simp]
lemma erase_perform (event : Event) (x : Eval α) : (perform event x).erase = x := rfl

/-- The moments around a computation are not part of it. -/
@[simp]
lemma erase_between (before : Event) (after : Except Error α → Event) (x : Watched α) :
    (between before after x).erase = x.erase := rfl

/-- To give failures a site is the same with and without moments. -/
@[simp]
lemma erase_located (x : Watched α) (site : Node) :
    (x.located site).erase = x.erase.located site := rfl

section Erasure

variable {self : Watcher} {plain : Evaluator} (h : ∀ p n env, (self p n env).erase = plain n env)
include h

/-- Watching instructions does not change how they end. -/
lemma erase_instructions (p env) (body : List Node) :
    (instructions self p env body).erase = Eval.instructions plain env body := by
  induction body with
  | nil => rfl
  | cons first rest ih =>
    simp only [instructions, Eval.instructions, erase_bind, h]
    congr 1
    funext v
    cases v <;> first | rfl | exact ih

/-- Watching arguments does not change how they end. -/
lemma erase_arguments (env) (args : List Node) :
    (arguments self env args).erase = Eval.arguments plain env args := by
  induction args with
  | nil => rfl
  | cons first rest ih => simp only [arguments, Eval.arguments, erase_bind, erase_pure, h, ih]

/-- Watching initializers does not change how they end. -/
lemma erase_initializers (env object) (fields : List (String × Node)) :
    (initializers self env object fields).erase = Eval.initializers plain env object fields := by
  induction fields with
  | nil => rfl
  | cons field rest ih =>
    obtain ⟨name, init⟩ := field
    simp only [initializers, Eval.initializers, erase_bind, erase_perform, h, ih]

/-- Watching the body of a function does not change how it ends. -/
lemma erase_enter (code captured receiver args) :
    (enter self code captured receiver args).erase =
      Eval.enter plain code captured receiver args := by
  unfold enter Eval.enter
  split
  · simp only [erase_bind, erase_observe]
    congr 1
    funext scope
    cases scope <;> simp [h]
  · rfl

/-- Watching an invocation does not change how it ends. -/
lemma erase_invoke (chatty callee receiver args) :
    (invoke chatty self callee receiver args).erase =
      Eval.invoke chatty plain callee receiver args := by
  simp only [invoke, Eval.invoke, erase_bind, erase_observe]
  congr 1
  funext kind
  cases kind with
  | none => rfl
  | some kind =>
    cases kind with
    | closure code captured => exact erase_enter h code captured receiver args
    | primitive name host arity =>
      cases arity with
      | none => rfl
      | some expected => by_cases hc : (args.length : Int) = expected <;> simp [hc]
    | plain | environment => rfl

/-- Watching a call does not change how it ends. -/
lemma erase_call (chatty env receiver callee args site) :
    (call chatty self env receiver callee args site).erase =
      Eval.call chatty plain env receiver callee args site := by
  simp only [call, Eval.call, erase_bind, erase_observe]
  congr 1
  funext f
  cases f with
  | none => rfl
  | some f =>
    simp only [erase_bind, erase_located, erase_between, erase_arguments h, erase_invoke h]

/-- Watching the rule for a node does not change how it ends. -/
lemma erase_node (chatty p n env) :
    (node chatty self p n env).erase = Eval.node chatty plain n env := by
  cases n with
  | block body line => exact erase_instructions h p env body
  | cond test yes no line =>
    simp only [node, Eval.node, erase_bind, h]
    congr 1
    funext v
    cases v with
    | atom a =>
      cases a with
      | int i => exact h ..
      | str | bool | null | undefined => rfl
    | ref | returning => rfl
  | _ =>
    simp [node, Eval.node, h, erase_call h, erase_initializers h]

end Erasure

/-- The watched evaluator without its moments is the evaluator. -/
theorem erase_evaluate (chatty : Bool) (depth : Nat) (p : Node.Position) (n : Node) (env : Ref) :
    (Watched.evaluate chatty depth p n env).erase = Scriptlet.evaluate chatty depth n env := by
  induction depth generalizing p n env with
  | zero => rfl
  | succ depth ih => exact erase_node ih chatty p n env

end Watched

/-- The run that a report makes of how the evaluation of a script's body ended. -/
def Report.ending (r : Report) (scope : Ref) : Result Value → Run
  | .ok _ s => ⟨.returned, scope, s, r⟩
  | .error (.failure f) s => r.conclude scope f s
  | .error (.fault fault) s => ⟨.fault fault, scope, s, r⟩
  | .error .tooDeep s => ⟨.tooDeep, scope, s, r⟩

/-- Concluding a run leaves the heap as it is. -/
lemma Report.heap_ending (r : Report) (scope : Ref) (e : Result Value) :
    (r.ending scope e).state.heap = (Eval.final e).heap := by
  match e with
  | .ok _ _ | .error (.fault _) _ | .error .tooDeep _ => rfl
  | .error (.failure f) s =>
    simp only [ending, conclude, Eval.final]
    split <;> rfl

/-- Concluding a run leaves its global scope as it is. -/
lemma Report.scope_ending (r : Report) (scope : Ref) (e : Result Value) :
    (r.ending scope e).scope = scope := by
  match e with
  | .ok _ _ | .error (.fault _) _ | .error .tooDeep _ => rfl
  | .error (.failure f) s =>
    simp only [ending, conclude]
    split <;> rfl

namespace Script

/-- The global scope of a run. -/
abbrev scope : Ref := Heap.empty.next

/-- The state that a run starts with: a fresh global scope, and the information that a verbose report
puts on the console before the body is evaluated. -/
def start (script : Script) (report : Report) : State :=
  match script.body with
  | .block body _ =>
    let opening := report.info
      [.ok "Evaluating script of", .ok (Text.digits body.length), .ok "top-level instructions"]
    ⟨Global.prepare .empty, 0, [], opening.text⟩
  | _ => ⟨Global.prepare .empty, 0, [], ""⟩

/-- The watched evaluation of the body of a script. -/
def watch (script : Script) (depth : Nat) (report : Report) : List Moment × Result Value :=
  Watched.evaluate report.verbose depth .statement script.body scope (script.start report)

/-- The moments of a run, the start first. A body that is no block is not evaluated. -/
def history (script : Script) (depth : Nat) (report : Report) : List Moment :=
  ⟨.step, script.start report⟩ ::
    if script.body.kind = .block then (script.watch depth report).1 else []

variable (script : Script) (depth : Nat) (report : Report)

/-- Every run starts with the same heap. -/
lemma heap_start : (script.start report).heap = Global.prepare .empty := by
  rw [start]
  split <;> rfl

/-- The watched evaluation of a script's body ends the way that the evaluation does. -/
lemma watch_result :
    (script.watch depth report).2 =
      evaluate report.verbose depth script.body scope (script.start report) :=
  congrFun (Watched.erase_evaluate ..) _

/-- A run ends the way that the watched evaluation of the body does. -/
theorem interpret_eq_ending (h : script.body.kind = .block) :
    interpret depth report script = report.ending scope (script.watch depth report).2 := by
  obtain ⟨body⟩ := script
  cases body with
  | block body line =>
    rw [watch_result]
    simp only [interpret, start]
    split <;> (rename_i he; rw [he]; rfl)
  | _ => cases h

/-- A run of something other than a block ends before anything is evaluated. -/
lemma interpret_of_ne_block (h : script.body.kind ≠ .block) :
    interpret depth report script =
      ⟨.fault (.noInstructions script.body.kind), scope, script.start report, report⟩ := by
  obtain ⟨body⟩ := script
  cases body with
  | block body line => exact absurd rfl h
  | _ => rfl

/-- The last moment of a run has the heap that the run ends with. -/
lemma getLast?_history :
    (script.history depth report).getLast?.map (·.state.heap) =
      some (interpret depth report script).state.heap := by
  by_cases h : script.body.kind = .block
  · rw [interpret_eq_ending script depth report h, Report.heap_ending, history, if_pos h]
    unfold watch Watched.evaluate
    cases depth <;> simp only [Watched.between, ← List.cons_append, List.getLast?_concat] <;> rfl
  · rw [interpret_of_ne_block script depth report h, history, if_neg h]
    rfl

end Script

end Scriptlet

import Mathlib.Order.Filter.AtTopBot.Basic
import Scriptlet.Proofs.Semantics.Equations

/-!
# The evaluator and the meaning of scripts

The evaluator does what the rules say. An evaluation that is not cut short for its depth ends in a
way that the rules derive (`Task.Covers`); and what they derive is how it ends within every limit that
is great enough (`Task.Settles`). So the two agree (`evaluate_agrees`), and the rules derive at most
one end (`Task.Ends.unique`).
-/

namespace Scriptlet

namespace Task

variable {chatty : Bool}

/-- An end of a task, unless it is one for the depth, is one that the rules derive. -/
def Covers (chatty : Bool) (task : Task) (s : State) (r : Result task.Answer) : Prop :=
  Eval.error? (Eval.outcome r) ≠ some .tooDeep → task.Ends chatty s r

/-- A task that begins with another one. -/
lemma Covers.bind {task first : Task} {s t : State} {x : Eval first.Answer}
    {f : first.Answer → Eval task.Answer} (hx : first.Covers chatty s (x s))
    (ok : ∀ a u, first.Ends chatty s (.ok a u) → task.Covers chatty t (f a u))
    (error : ∀ e u, first.Ends chatty s (.error e u) → task.Ends chatty t (.error e u)) :
    task.Covers chatty t ((x >>= f) s) := by
  intro hdeep
  cases h : x s with
  | ok a u =>
    rw [h] at hx
    rw [Eval.bind_run_of_ok h] at hdeep ⊢
    exact ok a u (hx nofun) hdeep
  | error e u =>
    rw [h] at hx
    rw [Eval.bind_run_of_error h] at hdeep ⊢
    exact error e u (hx hdeep)

/-- A task that ends by showing a value in a failure. -/
lemma Covers.showing {task : Task} {s t : State} {shown cause site}
    (h : task.Ends chatty s (.error (.showing (shown t.heap) cause site) t)) :
    task.Covers chatty s
      ((do
        let text ← Eval.read shown
        Eval.fail (cause text) site : Eval task.Answer) t) := by
  rw [Eval.showing_run]
  exact fun _ => h

section Rules

variable {self : Evaluator} {s : State}
variable (hself : ∀ n env s, (node n env).Covers chatty s (self n env s))
include hself

/-- The rules cover instructions if they cover nodes. -/
lemma covers_instructions (body env) :
    (instructions body env).Covers chatty s (Eval.instructions self env body s) := by
  induction body generalizing s with
  | nil => exact fun _ => .finished
  | cons first rest ih =>
    refine .bind (hself first env s) (fun v t hv => ?_) fun _ _ he => .instructionError he
    cases v with
    | returning signal v => exact fun _ => .returned hv
    | atom | ref => exact fun hdeep => .continued hv nofun (ih hdeep)

/-- The rules cover arguments if they cover nodes. -/
lemma covers_arguments (args env) :
    (arguments args env).Covers chatty s (Eval.arguments self env args s) := by
  induction args generalizing s with
  | nil => exact fun _ => .noArguments
  | cons first rest ih =>
    refine .bind (hself first env s) (fun v t hv => ?_) fun _ _ he => .argumentError he
    exact .bind ih (fun _ _ hvs _ => .argument hv hvs) fun _ _ he => .argumentsError hv he

/-- The rules cover initializers if they cover nodes. -/
lemma covers_initializers (fields object env) :
    (initializers fields object env).Covers chatty s
      (Eval.initializers self env object fields s) := by
  induction fields generalizing s with
  | nil => exact fun _ => .initialized
  | cons field rest ih =>
    obtain ⟨name, init⟩ := field
    refine .bind (hself init env s) (fun v t hv => ?_) fun _ _ he => .initializerError he
    exact fun hdeep => .initializer hv (ih hdeep)

/-- The rules cover invocations if they cover nodes. -/
lemma covers_invocation (callee receiver args) :
    (invocation callee receiver args).Covers chatty s
      (Eval.invoke chatty self callee receiver args s) := by
  obtain ⟨code, captured, hkind⟩ | ⟨name, host, arity, hkind⟩ | hnone :=
    s.heap.function?_cases callee
  · rw [Eval.invoke_of_closure hkind]
    by_cases hcount : args.length = code.params.length
    · cases hscope : s.heap.scope? captured with
      | none =>
        rw [Eval.enter_of_noScope hcount hscope]
        exact fun _ => .noScope hkind hcount hscope
      | some parent =>
        rw [Eval.enter_of_scope hcount hscope]
        exact .bind (hself _ _ _) (fun _ _ hv _ => .body hkind hcount hscope hv) fun _ _ he =>
          .bodyError hkind hcount hscope he
    · rw [Eval.enter_of_wrongCount hcount]
      exact fun _ => .wrongCount hkind hcount
  · by_cases hcount : ∀ expected, arity = some expected → (args.length : Int) = expected
    · rw [Eval.invoke_of_primitive hkind hcount]
      exact fun _ => .primitive hkind hcount
    · push Not at hcount
      obtain ⟨expected, rfl, hne⟩ := hcount
      rw [Eval.invoke_of_wrongCount hkind hne]
      exact fun _ => .primitiveWrongCount hkind hne
  · rw [Eval.invoke_of_none hnone]
    exact fun _ => .notFunction hnone

/-- The rules cover calls if they cover nodes. -/
lemma covers_call (site receiver callee args env) :
    (call site receiver callee args env).Covers chatty s
      (Eval.call chatty self env receiver callee args site s) := by
  cases hf : s.heap.function? callee with
  | none =>
    rw [Eval.call_of_none hf]
    exact fun _ => .notCallable hf
  | some f =>
    rw [Eval.call_of_function hf]
    refine .bind (covers_arguments hself args env) (fun vs t hvs => ?_) fun _ _ he =>
      .callArgumentsError hf he
    have hinvoke := covers_invocation hself f receiver vs (s := t)
    intro hdeep
    cases h : Eval.invoke chatty self f receiver vs t with
    | ok v u =>
      rw [h] at hinvoke
      rw [Eval.located_of_ok h]
      exact .invoked hf hvs (hinvoke nofun)
    | error e u =>
      rw [h] at hinvoke
      rw [Eval.located_of_error h] at hdeep ⊢
      refine .invokedError hf hvs (hinvoke fun he => hdeep ?_)
      exact congrArg (Option.map (Error.locate site)) he

/-- What is evaluated by its rule ends in a way that the rules derive, if all that is inside does. -/
lemma covers_node (n env) : (node n env).Covers chatty s (Eval.node chatty self n env s) := by
  cases n with
  | block body line => exact fun hdeep => .block (covers_instructions hself body env hdeep)
  | literal a line => exact fun _ => .literal
  | call callee args line =>
    refine .bind (hself callee env s) (fun f t hf hdeep => ?_) fun _ _ he => .calleeError he
    exact .call hf (covers_call hself _ _ _ _ _ hdeep)
  | var name line => exact fun _ => .var
  | assign name value declares line =>
    by_cases hfree : declares = true → s.heap.lookup env name = .undefined
    · rw [Eval.node, Eval.bind_run_of_ok (Eval.demandFree_of_free hfree)]
      exact .bind (hself value env s) (fun _ _ hv _ => .assign hfree hv) fun _ _ he =>
        .assignError hfree he
    · obtain ⟨rfl, hbound⟩ := Classical.not_imp.1 hfree
      rw [Eval.node, Eval.bind_run_of_error (Eval.demandFree_of_bound hbound)]
      exact fun _ => .duplicate hbound
  | function name params body line =>
    cases name with
    | none => exact fun _ => .lambda
    | some name => exact fun _ => .function
  | ret value line =>
    exact .bind (hself value env s) (fun _ _ hv _ => .ret hv) fun _ _ he => .retError he
  | cond test yes no line =>
    refine .bind (hself test env s) (fun v t hv => ?_) fun _ _ he => .condError he
    cases v with
    | atom a =>
      cases a with
      | int i =>
        by_cases hi : i = 0
        · subst hi
          exact fun hdeep => .condNo hv (hself no env t hdeep)
        · have hyes : (if i ≠ 0 then yes else no) = yes := if_pos hi
          dsimp only
          rw [hyes]
          exact fun hdeep => .condYes hv hi (hself yes env t hdeep)
      | str | bool | null | undefined => exact .showing (.notBoolean hv (by simp))
    | ref | returning => exact .showing (.notBoolean hv (by simp))
  | object fields line =>
    exact .bind (covers_initializers hself fields _ env) (fun _ _ h _ => .object h) fun _ _ he =>
      .objectError he
  | field receiver name line =>
    refine .bind (hself receiver env s) (fun v t hv => ?_) fun _ _ he => .fieldError he
    cases howner : t.heap.object? v with
    | none =>
      rw [Eval.bind_run_of_error (Eval.asObject_of_none howner)]
      exact fun _ => .fieldNotObject hv howner
    | some owner =>
      rw [Eval.bind_run_of_ok (Eval.asObject_of_some howner)]
      exact fun _ => .field hv howner
  | setField receiver name value line =>
    refine .bind (hself receiver env s) (fun v t hv => ?_) fun _ _ he => .setFieldError he
    cases howner : t.heap.object? v with
    | none =>
      rw [Eval.bind_run_of_error (Eval.asObject_of_none howner)]
      exact fun _ => .setFieldNotObject hv howner
    | some owner =>
      rw [Eval.bind_run_of_ok (Eval.asObject_of_some howner)]
      exact .bind (hself value env t) (fun _ _ hw _ => .setField hv howner hw) fun _ _ he =>
        .setFieldValueError hv howner he
  | method receiver name args line =>
    refine .bind (hself receiver env s) (fun v t hv => ?_) fun _ _ he => .methodError he
    cases howner : t.heap.object? v with
    | none =>
      rw [Eval.bind_run_of_error (Eval.asObject_of_none howner)]
      exact fun _ => .methodNotObject hv howner
    | some owner =>
      rw [Eval.bind_run_of_ok (Eval.asObject_of_some howner), Eval.lookup_bind_run]
      exact fun hdeep => .method hv howner (covers_call hself _ _ _ _ _ hdeep)
  | script body => exact fun _ => .script
  | absent => exact fun _ => .absent

end Rules

/-- An evaluation that is not cut short ends in a way that the rules derive. -/
theorem covers_evaluate (depth n env s) :
    (node n env).Covers chatty s (evaluate chatty depth n env s) := by
  induction depth generalizing n env s with
  | zero => exact fun hdeep => absurd rfl hdeep
  | succ depth ih => exact covers_node ih n env

/-- What the evaluator does for a task, given how it evaluates nodes. -/
def run (chatty : Bool) (self : Evaluator) : (task : Task) → Eval task.Answer
  | node n env => self n env
  | instructions body env => Eval.instructions self env body
  | arguments args env => Eval.arguments self env args
  | initializers fields object env => Eval.initializers self env object fields
  | call site receiver callee args env => Eval.call chatty self env receiver callee args site
  | invocation callee receiver args => Eval.invoke chatty self callee receiver args

open Filter in
/-- A task ends in a way within every limit on the depth that is great enough. -/
def Settles (chatty : Bool) (task : Task) (s : State) (r : Result task.Answer) : Prop :=
  ∀ᶠ depth in atTop, task.run chatty (evaluate chatty depth) s = r

/-- A node settles when its rule does. -/
lemma Settles.node {n env s r}
    (h : ∀ᶠ depth in Filter.atTop, Eval.node chatty (evaluate chatty depth) n env s = r) :
    (node n env).Settles chatty s r := by
  obtain ⟨depth, hdepth⟩ := Filter.eventually_atTop.1 h
  refine Filter.eventually_atTop.2 ⟨depth + 1, fun more hmore => ?_⟩
  cases more with
  | zero => exact absurd hmore (Nat.not_succ_le_zero depth)
  | succ more => exact hdepth more (Nat.le_of_succ_le_succ hmore)

open Filter in
/-- A call of a function settles when its arguments and its invocation do. -/
lemma Settles.call {site receiver callee args env s f r}
    (hf : s.heap.function? callee = some f)
    (h : ∀ᶠ depth in atTop,
      (do
        let values ← Eval.arguments (evaluate chatty depth) env args
        (Eval.invoke chatty (evaluate chatty depth) f receiver values).located site) s = r) :
    (call site receiver callee args env).Settles chatty s r :=
  h.mono fun _ => (Eval.call_of_function hf).trans

open Filter in
/-- An invocation of a closure settles when its body does. -/
lemma Settles.invocation {callee receiver args s code captured parent r}
    (hkind : s.heap.kind? callee = some (.closure code captured))
    (hcount : args.length = code.params.length) (hscope : s.heap.scope? captured = some parent)
    (h : ∀ᶠ depth in atTop,
      (do
        let v ← evaluate chatty depth code.body s.heap.next
        return v.result : Eval Value)
        { s with
          heap := s.heap.push ⟨.environment parent, code.bindings receiver args⟩ } = r) :
    (invocation callee receiver args).Settles chatty s r :=
  h.mono fun _ =>
    ((Eval.invoke_of_closure hkind).trans (Eval.enter_of_scope hcount hscope)).trans

open Filter in
/-- One computation after another, both of them within limits that are great enough. -/
lemma eventually_bind {α β : Type} {x : ℕ → Eval α} {f : ℕ → α → Eval β} {s t a r}
    (hx : ∀ᶠ depth in atTop, x depth s = .ok a t) (hf : ∀ᶠ depth in atTop, f depth a t = r) :
    ∀ᶠ depth in atTop, (x depth >>= f depth) s = r := by
  filter_upwards [hx, hf] with depth hx hf
  rw [Eval.bind_run_of_ok hx, hf]

open Filter in
/-- What comes to an error within every great limit does so when something was to come after it. -/
lemma eventually_error {α β : Type} {x : ℕ → Eval α} {s e t}
    (hx : ∀ᶠ depth in atTop, x depth s = .error e t) (f : ℕ → α → Eval β) :
    ∀ᶠ depth in atTop, (x depth >>= f depth) s = .error e t :=
  hx.mono fun depth h => Eval.bind_run_of_error h (f depth)

/-- What the rules derive is how a task ends within every limit that is great enough. -/
theorem Ends.settles {task : Task} {s r} (h : task.Ends chatty s r) :
    task.Settles chatty s r := by
  -- over the derivation and not over the node, for an invocation goes on with a body from the heap
  induction h with
  | block _ ih => exact .node ih
  | finished | initialized | noArguments => exact .of_forall fun _ => rfl
  | returned _ ih => exact eventually_bind ih (.of_forall fun _ => rfl)
  | @continued _ _ _ _ v _ _ _ hne _ ih ih' =>
    refine eventually_bind ih ?_
    cases v with
    | returning signal w => exact absurd rfl (hne signal w)
    | atom | ref => exact ih'
  | instructionError _ ih | initializerError _ ih | argumentError _ ih =>
    exact eventually_error ih _
  | literal | var | lambda | function => exact .node (.of_forall fun _ => rfl)
  | script | absent => exact .node (.of_forall fun _ => rfl)
  | duplicate hbound =>
    refine .node (.of_forall fun _ => ?_)
    exact Eval.bind_run_of_error (Eval.demandFree_of_bound hbound) _
  | assign hfree _ ih =>
    refine .node (eventually_bind (.of_forall fun _ => Eval.demandFree_of_free hfree) ?_)
    exact eventually_bind ih (.of_forall fun _ => rfl)
  | assignError hfree _ ih =>
    refine .node (eventually_bind (.of_forall fun _ => Eval.demandFree_of_free hfree) ?_)
    exact eventually_error ih _
  | ret _ ih => exact .node (eventually_bind ih (.of_forall fun _ => rfl))
  | retError _ ih | condError _ ih | fieldError _ ih | setFieldError _ ih | methodError _ ih
  | calleeError _ ih => exact .node (eventually_error ih _)
  | condYes _ hi _ ih ih' =>
    refine .node (eventually_bind ih ?_)
    simp only [hi, if_true, ne_eq, not_false_eq_true]
    exact ih'
  | condNo _ _ ih ih' => exact .node (eventually_bind ih ih')
  | @notBoolean _ _ _ _ _ _ v _ _ hne ih =>
    refine .node (eventually_bind ih (.of_forall fun _ => ?_))
    cases v with
    | atom a =>
      cases a with
      | int i => exact absurd rfl (hne i)
      | str | bool | null | undefined => exact Eval.showing_run _ _ _
    | ref | returning => exact Eval.showing_run _ _ _
  | object _ ih =>
    refine .node (eventually_bind (.of_forall fun _ => rfl) ?_)
    exact eventually_bind ih (.of_forall fun _ => rfl)
  | objectError _ ih =>
    refine .node (eventually_bind (.of_forall fun _ => rfl) ?_)
    exact eventually_error ih _
  | initializer _ _ ih ih' => exact eventually_bind ih ih'
  | field _ howner ih =>
    refine .node (eventually_bind ih (.of_forall fun _ => ?_))
    exact Eval.bind_run_of_ok (Eval.asObject_of_some howner) _
  | fieldNotObject _ howner ih | setFieldNotObject _ howner ih | methodNotObject _ howner ih =>
    refine .node (eventually_bind ih (.of_forall fun _ => ?_))
    exact Eval.bind_run_of_error (Eval.asObject_of_none howner) _
  | setField _ howner _ ih ih' =>
    refine .node (eventually_bind ih ?_)
    refine eventually_bind (.of_forall fun _ => Eval.asObject_of_some howner) ?_
    exact eventually_bind ih' (.of_forall fun _ => rfl)
  | setFieldValueError _ howner _ ih ih' =>
    refine .node (eventually_bind ih ?_)
    refine eventually_bind (.of_forall fun _ => Eval.asObject_of_some howner) ?_
    exact eventually_error ih' _
  | method _ howner _ ih ih' =>
    refine .node (eventually_bind ih ?_)
    exact eventually_bind (.of_forall fun _ => Eval.asObject_of_some howner) ih'
  | call _ _ ih ih' => exact .node (eventually_bind ih ih')
  | notCallable hf => exact .of_forall fun _ => Eval.call_of_none hf
  | callArgumentsError hf _ ih => exact .call hf (eventually_error ih _)
  | invoked hf _ _ ih ih' =>
    exact .call hf (eventually_bind ih (ih'.mono fun _ h => Eval.located_of_ok h _))
  | invokedError hf _ _ ih ih' =>
    exact .call hf (eventually_bind ih (ih'.mono fun _ h => Eval.located_of_error h _))
  | argument _ _ ih ih' => exact eventually_bind ih (eventually_bind ih' (.of_forall fun _ => rfl))
  | argumentsError _ _ ih ih' => exact eventually_bind ih (eventually_error ih' _)
  | wrongCount hkind hcount =>
    exact .of_forall fun _ => (Eval.invoke_of_closure hkind).trans (Eval.enter_of_wrongCount hcount)
  | noScope hkind hcount hscope =>
    exact .of_forall fun _ =>
      (Eval.invoke_of_closure hkind).trans (Eval.enter_of_noScope hcount hscope)
  | body hkind hcount hscope _ ih =>
    exact .invocation hkind hcount hscope (eventually_bind ih (.of_forall fun _ => rfl))
  | bodyError hkind hcount hscope _ ih =>
    exact .invocation hkind hcount hscope (eventually_error ih _)
  | primitive hkind hcount => exact .of_forall fun _ => Eval.invoke_of_primitive hkind hcount
  | primitiveWrongCount hkind hne => exact .of_forall fun _ => Eval.invoke_of_wrongCount hkind hne
  | notFunction hnone => exact .of_forall fun _ => Eval.invoke_of_none hnone

/-- What the rules derive is not an end for the depth. -/
lemma Ends.ne_tooDeep {task : Task} {s r} (h : task.Ends chatty s r) :
    Eval.error? (Eval.outcome r) ≠ some .tooDeep := by
  induction h with
  | finished | returned | literal | var | duplicate | assign | lambda | function | ret | object
  | initialized | field | setField | invoked | noArguments | argument | wrongCount | noScope | body
  | script | absent => nofun
  | notBoolean | fieldNotObject | setFieldNotObject | methodNotObject | notCallable | notFunction
  | primitiveWrongCount =>
    exact fun h => Error.showing_ne_tooDeep _ _ _ (Option.some.inj h)
  | invokedError _ _ _ _ ih =>
    exact fun h => Error.locate_ne_tooDeep (fun he => ih (congrArg some he)) _ (Option.some.inj h)
  | primitive => exact (Eval.runHost_ends ..).ne_tooDeep
  | block _ ih | instructionError _ ih | assignError _ _ ih | retError _ ih | condError _ ih
  | objectError _ ih | initializerError _ ih | fieldError _ ih | setFieldError _ ih | methodError _ ih
  | calleeError _ ih | callArgumentsError _ _ ih | argumentError _ ih | bodyError _ _ _ _ ih
  | continued _ _ _ _ ih | condYes _ _ _ _ ih | condNo _ _ _ ih | initializer _ _ _ ih
  | setFieldValueError _ _ _ _ ih | method _ _ _ _ ih | call _ _ _ ih | argumentsError _ _ _ ih =>
    exact ih

/-- A task ends in one way only. -/
theorem Ends.unique {task : Task} {s r r'} (h : task.Ends chatty s r)
    (h' : task.Ends chatty s r') : r = r' := by
  obtain ⟨depth, hr, hr'⟩ := (h.settles.and h'.settles).exists
  exact hr.symm.trans hr'

end Task

/-- The evaluator agrees with the rules: within any limit on the depth, an evaluation that ends in
any way but for the depth ends, outcome and state, as the rules derive; and what the rules derive is
never an end for the depth, but how the evaluation ends from some limit on. -/
theorem evaluate_agrees (chatty : Bool) (n : Node) (env : Ref) (s : State) (r : Result Value) :
    (∀ depth, evaluate chatty depth n env s = r → Eval.error? (Eval.outcome r) ≠ some .tooDeep →
      (Task.node n env).Ends chatty s r) ∧
    ((Task.node n env).Ends chatty s r →
      Eval.error? (Eval.outcome r) ≠ some .tooDeep ∧
        ∃ depth, ∀ more, depth ≤ more → evaluate chatty more n env s = r) := by
  constructor
  · rintro depth rfl
    exact Task.covers_evaluate depth n env s
  · exact fun h => ⟨h.ne_tooDeep, Filter.eventually_atTop.1 h.settles⟩

/-- A state with one environment, which binds nothing. -/
def State.bare : State := ⟨Heap.empty.push ⟨.environment none, []⟩, 0, [], ""⟩

/-- Instructions that make a function, keep what it returns, and take a field of it, which is no
object. -/
def Node.misstep : Node :=
  .block
    [.function (some "f") ["x"]
        (.block [.assign "y" (.var "x" 1) true 1, .ret (.var "y" 1) 1, .call (.var "f" 1) [] 1] 1) 1,
      .assign "z" (.call (.var "f" 2) [.literal (.str "seven") 2] 2) true 2,
      .field (.var "z" 3) "w" 3] 1

/-- The instructions end with a failure, after the function has returned and its value is bound; the
rules derive just this, and from some limit on nothing else comes of the evaluation. -/
theorem evaluate_agrees_misstep :
    ∃ r : Result Value,
      evaluate false 6 .misstep ⟨0⟩ .bare = r ∧
        Eval.outcome r =
          .error (.failure ⟨.notObject "seven", some (.field (.var "z" 3) "w" 3)⟩) ∧
        (Eval.final r).heap.lookup ⟨0⟩ "z" = .str "seven" ∧
        (Eval.final r).signals = 1 ∧
        (Task.node .misstep ⟨0⟩).Ends false .bare r ∧
        ∃ depth, ∀ more, depth ≤ more → evaluate false more .misstep ⟨0⟩ .bare = r := by
  have houtcome : Eval.outcome (evaluate false 6 .misstep ⟨0⟩ .bare) =
      .error (.failure ⟨.notObject "seven", some (.field (.var "z" 3) "w" 3)⟩) := rfl
  obtain ⟨hderived, hlimit⟩ :=
    evaluate_agrees false .misstep ⟨0⟩ .bare (evaluate false 6 .misstep ⟨0⟩ .bare)
  have hends := hderived 6 rfl (by rw [houtcome]; nofun)
  exact ⟨_, rfl, houtcome, by decide +kernel, rfl, hends, (hlimit hends).2⟩

end Scriptlet

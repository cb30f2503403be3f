import Scriptlet.Proofs.Semantics

/-!
# Equations of operations

What each operation that the rules of nodes are made of comes to in a state, check by check: a name
that is declared is free or bound, an owner is an object or not, a callee is a function or not, and an
invocation passes or fails the checks that come before a body or a routine.
-/

namespace Scriptlet

/-- A runtime object is a closure or a primitive, or it is no function. -/
lemma Heap.function?_cases (h : Heap) (r : Ref) :
    (∃ code captured, h.kind? r = some (.closure code captured)) ∨
      (∃ name host arity, h.kind? r = some (.primitive name host arity)) ∨
      h.function? (.ref r) = none := by
  rw [function?]
  cases h.kind? r with
  | none => exact .inr (.inr rfl)
  | some kind =>
    cases kind with
    | closure code captured => exact .inl ⟨code, captured, rfl⟩
    | primitive name host arity => exact .inr (.inl ⟨name, host, arity, rfl⟩)
    | plain | environment => exact .inr (.inr rfl)

namespace Error

/-- Showing a value does not depend on the depth. -/
lemma showing_ne_tooDeep (shown cause site) : showing shown cause site ≠ .tooDeep := by
  cases shown <;> nofun

/-- A site does not make an error one of nesting too deep. -/
lemma locate_ne_tooDeep {e : Error} (h : e ≠ .tooDeep) (site : Node) :
    e.locate site ≠ .tooDeep := by
  cases e with
  | tooDeep => exact absurd rfl h
  | failure | fault => nofun

end Error

/-- The depth does not matter to the routines of the host. -/
lemma Host.Ends.ne_tooDeep {host : Host} {args s r} (h : host.Ends args s r) :
    Eval.error? (Eval.outcome r) ≠ some .tooDeep := by
  cases h <;> nofun

namespace Eval

variable {α β : Type} {s : State}

/-- What only looks at the heap comes before the rest in the same state. -/
lemma read_bind_run (look : Heap → α) (f : α → Eval β) :
    ((read fun h => .ok (look h)) >>= f) s = f (look s.heap) s := rfl

/-- Looking up a name goes on with what is found. -/
lemma lookup_bind_run (r : Ref) (name : String) (f : Value → Eval β) :
    (lookup r name >>= f) s = f (s.heap.lookup r name) s := rfl

/-- Showing a value in a failure ends with that failure, or with the fault of showing it. -/
lemma showing_run (shown : Heap → Except Fault String) (cause : String → Failure.Cause) (site) :
    (do
      let text ← read shown
      fail (cause text) site : Eval α) s = .error (.showing (shown s.heap) cause site) s := by
  cases h : shown s.heap with
  | ok text =>
    have hread : read shown s = .ok text s := by rw [read, h]
    rw [bind_run_of_ok hread]
    rfl
  | error f =>
    have hread : read shown s = .error (.fault f) s := by rw [read, h]
    rw [bind_run_of_error hread]
    rfl

/-- A value passes through a call as it is. -/
lemma located_of_ok {x : Eval α} {a t} (h : x s = .ok a t) (site : Node) :
    x.located site s = .ok a t := by
  rw [located, h]

/-- An error that passes through a call gets its site. -/
lemma located_of_error {x : Eval α} {e t} (h : x s = .error e t) (site : Node) :
    x.located site s = .error (e.locate site) t := by
  rw [located, h]
  cases e <;> rfl

section Checks

variable {declares : Bool} {env : Ref} {name : String} {site : Node} {v : Value}

/-- A name that is free, or need not be, passes the check. -/
lemma demandFree_of_free (h : declares = true → s.heap.lookup env name = .undefined) :
    demandFree declares env name site s = .ok () s := by
  cases declares with
  | false => rfl
  | true =>
    rw [demandFree, if_pos rfl, lookup_bind_run, if_pos (h rfl)]
    rfl

/-- A declaration of a name that is bound fails. -/
lemma demandFree_of_bound (h : s.heap.lookup env name ≠ .undefined) :
    demandFree true env name site s = .error (.failure ⟨.duplicate name, some site⟩) s := by
  rw [demandFree, if_pos rfl, lookup_bind_run, if_neg h]
  rfl

/-- A value that stands for an object passes for it. -/
lemma asObject_of_some {owner} (h : s.heap.object? v = some owner) :
    asObject v site s = .ok owner s := by
  rw [asObject, read_bind_run, h]
  rfl

/-- A value that stands for no object is shown in a failure. -/
lemma asObject_of_none (h : s.heap.object? v = none) :
    asObject v site s = .error (.showing (s.heap.text v) .notObject (some site)) s := by
  rw [asObject, read_bind_run, h]
  exact showing_run _ _ _

end Checks

section Calls

variable {chatty : Bool} {self : Evaluator} {env : Ref} {receiver callee : Value} {args : List Node}
  {site : Node} {f : Ref} {values : List Value} {code : Function} {captured : Value}

/-- A call of a function evaluates the arguments and then invokes it. -/
lemma call_of_function (h : s.heap.function? callee = some f) :
    call chatty self env receiver callee args site s =
      (do
        let values ← arguments self env args
        (invoke chatty self f receiver values).located site) s := by
  rw [call, read_bind_run, h]

/-- A call of what is no function fails before the arguments. -/
lemma call_of_none (h : s.heap.function? callee = none) :
    call chatty self env receiver callee args site s =
      .error (.showing (s.heap.text callee) .notCallable (some site)) s := by
  rw [call, read_bind_run, h]
  exact showing_run _ _ _

/-- A closure refuses a call with another number of arguments than it has parameters. -/
lemma enter_of_wrongCount (h : values.length ≠ code.params.length) :
    enter self code captured receiver values s =
      .error (.failure
        ⟨.wrongCount code.title code.params.length values.length, some code.toNode⟩) s := by
  rw [enter, if_neg h]
  rfl

/-- A closure that was made in no scope comes to a fault. -/
lemma enter_of_noScope (h : values.length = code.params.length)
    (hscope : s.heap.scope? captured = none) :
    enter self code captured receiver values s = .error (.fault .misuse) s := by
  rw [enter, if_pos h, read_bind_run, hscope]
  rfl

/-- A closure evaluates its body in a new frame, and what the call unwraps is its answer. -/
lemma enter_of_scope {parent} (h : values.length = code.params.length)
    (hscope : s.heap.scope? captured = some parent) :
    enter self code captured receiver values s =
      (do
        let v ← self code.body s.heap.next
        return v.result)
        { s with
          heap := s.heap.push ⟨.environment parent, code.bindings receiver values⟩ } := by
  rw [enter, if_pos h, read_bind_run, hscope]
  rfl

/-- An invocation of a closure enters it. -/
lemma invoke_of_closure (h : s.heap.kind? f = some (.closure code captured)) :
    invoke chatty self f receiver values s = enter self code captured receiver values s := by
  rw [invoke, read_bind_run, h]

/-- An invocation of a primitive with as many arguments as it asks for runs its routine. -/
lemma invoke_of_primitive {name host arity} (h : s.heap.kind? f = some (.primitive name host arity))
    (harity : ∀ expected, arity = some expected → (values.length : Int) = expected) :
    invoke chatty self f receiver values s = runHost chatty host values s := by
  rw [invoke, read_bind_run, h]
  cases arity with
  | none => rfl
  | some expected => exact congrFun (if_pos (harity expected rfl)) s

/-- A primitive refuses a call with another number of arguments than it asks for. -/
lemma invoke_of_wrongCount {name host expected}
    (h : s.heap.kind? f = some (.primitive name host (some expected)))
    (hne : (values.length : Int) ≠ expected) :
    invoke chatty self f receiver values s =
      .error (.showing (Fault.written (Text.decimal? expected))
        (fun _ => .wrongCount name expected values.length) none) s := by
  rw [invoke, read_bind_run, h]
  exact (congrFun (if_neg hne) s).trans (showing_run _ _ _)

/-- An invocation of what is no function fails. -/
lemma invoke_of_none (h : s.heap.function? (.ref f) = none) :
    invoke chatty self f receiver values s =
      .error (.showing (s.heap.objectText f) .notCallable none) s := by
  rw [invoke, read_bind_run]
  rw [Heap.function?] at h
  cases hkind : s.heap.kind? f with
  | none => exact showing_run _ _ _
  | some kind =>
    rw [hkind] at h
    cases kind with
    | closure | primitive => cases h
    | plain | environment => exact showing_run _ _ _

end Calls

end Eval

end Scriptlet

import Scriptlet.Proofs.Heap.Lookup
import Scriptlet.Proofs.Reached
import Scriptlet.Proofs.Semantics.Equations

/-!
# Calls of closures

What the body of a function finds in its frame. The receiver is bound first and the arguments after
it, one by one, so the last of several parameters of one name wins, and so does a parameter that has
the name of the receiver. A name that is bound by neither is looked up where the closure was made. A
call with another number of arguments than parameters fails before anything is made.

Main statements:
* `Function.exists_get?_bindings`, `Function.get?_bindings_of_not_mem`: what a call binds.
* `Heap.Layered.isFrame_push`: what names come to as seen from a new frame.
* `State.Reached.frame_exact`: how a closure is called.
-/

namespace Scriptlet

/-- The last of the names in a row that are the given one stands at a place. -/
structure LastAt (names : List String) (name : String) (i : Nat) : Prop where
  here : names[i]? = some name
  later : ∀ j, i < j → names[j]? ≠ some name

namespace LastAt

variable {names : List String} {name first : String} {i j : Nat}

/-- The last place of a name that does not come again is where it stands. -/
lemma head (h : name ∉ names) : LastAt (name :: names) name 0 := by
  refine ⟨rfl, fun j hj hname => h ?_⟩
  obtain ⟨k, rfl⟩ := Nat.exists_eq_add_of_lt hj
  rw [Nat.zero_add, List.getElem?_cons_succ] at hname
  exact List.mem_of_getElem? hname

/-- The last place of a name that comes again is found further on. -/
lemma tail (last : LastAt names name i) : LastAt (first :: names) name (i + 1) := by
  refine ⟨last.here, fun j hj => ?_⟩
  obtain ⟨k, rfl⟩ := Nat.exists_eq_succ_of_ne_zero (Nat.ne_zero_of_lt hj)
  exact last.later k (Nat.lt_of_succ_lt_succ hj)

/-- There is one last place only. -/
lemma unique (last : LastAt names name i) (last' : LastAt names name j) : i = j := by
  refine Nat.le_antisymm ?_ ?_
  · exact Nat.le_of_not_lt fun hlt => last'.later i hlt last.here
  · exact Nat.le_of_not_lt fun hlt => last.later j hlt last'.here

end LastAt

namespace Fields

/-- Names that are not among the bindings keep their values. -/
lemma get?_insertAll_of_not_mem {bindings : List (String × Value)} {name : String}
    (h : name ∉ bindings.map Prod.fst) (fields : Fields) :
    (fields.insertAll bindings).get? name = fields.get? name := by
  induction bindings generalizing fields with
  | nil => rfl
  | cons binding rest ih =>
    rw [List.map_cons, List.mem_cons, not_or] at h
    exact (ih h.2 _).trans (get?_insert_of_ne (Ne.symm h.1) fields binding.2)

/-- Of names that are bound one by one to as many values, each gets the value in its last place. -/
lemma exists_get?_insertAll_zip {names : List String} {values : List Value}
    (hlength : values.length = names.length) {name : String} (hname : name ∈ names)
    (fields : Fields) :
    ∃ i v, LastAt names name i ∧ values[i]? = some v ∧
      (fields.insertAll (names.zip values)).get? name = some v := by
  induction names generalizing values fields with
  | nil => cases hname
  | cons first rest ih =>
    cases values with
    | nil => cases hlength
    | cons value values =>
      have hrest := Nat.succ.inj hlength
      by_cases hlater : name ∈ rest
      · obtain ⟨i, v, last, hv, hget⟩ := ih hrest hlater (fields.insert first value)
        exact ⟨i + 1, v, last.tail, hv, hget⟩
      · obtain rfl := (List.mem_cons.1 hname).resolve_right hlater
        have hkeys : name ∉ (rest.zip values).map Prod.fst := by
          rwa [List.map_fst_zip (Nat.le_of_eq hrest.symm)]
        exact ⟨0, value, .head hlater, rfl,
          (get?_insertAll_of_not_mem hkeys _).trans (get?_insert_self fields name value)⟩

end Fields

namespace Function

variable (f : Function) (receiver : Value) {args : List Value} {name : String}

/-- A call binds each parameter to the argument in its last place. -/
theorem exists_get?_bindings (hlength : args.length = f.params.length) (hname : name ∈ f.params) :
    ∃ i v, LastAt f.params name i ∧ args[i]? = some v ∧
      (f.bindings receiver args).get? name = some v := by
  rw [bindings_eq]
  exact Fields.exists_get?_insertAll_zip hlength hname _

/-- Besides its parameters, a call binds the receiver and nothing else. -/
theorem get?_bindings_of_not_mem (hname : name ∉ f.params) :
    (f.bindings receiver args).get? name = if name = "this" then some receiver else none := by
  have hkeys : name ∉ (f.params.zip args).map Prod.fst := by
    intro h
    obtain ⟨⟨_, _⟩, hb, rfl⟩ := List.mem_map.1 h
    exact hname (List.of_mem_zip hb).1
  rw [bindings_eq, Fields.get?_insertAll_of_not_mem hkeys]
  simp only [Fields.get?, eq_comm]

end Function

namespace Heap

/-- An object sees names as the frame of a call does: parameters as the arguments in their last
places, the receiver under its name unless a parameter has that name, and whatever it does not bind
as the scope of the closure sees it. -/
structure IsFrame (h : Heap) (code : Function) (scope : Ref) (receiver : Value) (args : List Value)
    (frame : Ref) : Prop where
  encloses : h.Encloses scope frame
  param : ∀ name ∈ code.params, ∃ i, LastAt code.params name i ∧
    args[i]? = some (h.lookup frame name)
  receiver : "this" ∉ code.params → h.lookup frame "this" = receiver
  other : ∀ name, name ∉ code.params → name ≠ "this" →
    h.own? frame name = none ∧ h.lookup frame name = h.lookup scope name

namespace Layered

variable {h : Heap} (layered : h.Layered) {code : Function} {scope : Ref} {receiver : Value}
  {args : List Value}
include layered

/-- A frame is younger than the scope that it lies in. -/
lemma push_frame (hscope : scope.index < h.size) (fields : Fields) :
    (h.push ⟨.environment (some scope), fields⟩).Layered := by
  refine layered.push fun p hp => ?_
  cases hp
  exact hscope

/-- A new environment with what a call binds is a frame of the call. -/
theorem isFrame_push (hscope : scope.index < h.size) (hlength : args.length = code.params.length) :
    (h.push ⟨.environment (some scope), code.bindings receiver args⟩).IsFrame code scope receiver
      args h.next := by
  have hpush := layered.push_frame hscope (code.bindings receiver args)
  have hencloses : (h.push ⟨.environment (some scope), code.bindings receiver args⟩).Encloses scope
      h.next := encloses_iff.2 (kind?_push_next ..)
  refine ⟨hencloses, fun name hname => ?_, fun hthis => ?_, fun name hname hthis => ?_⟩
  · obtain ⟨i, v, last, hv, hget⟩ := code.exists_get?_bindings receiver hlength hname
    refine ⟨i, last, hv.trans (congrArg some ?_)⟩
    exact (hpush.lookup_of_own? (own?_push_next.trans hget)).symm
  · refine hpush.lookup_of_own? ?_
    rw [own?_push_next, code.get?_bindings_of_not_mem receiver hthis, if_pos rfl]
  · have hnone : (h.push ⟨.environment (some scope), code.bindings receiver args⟩).own? h.next name =
        none := by
      rw [own?_push_next, code.get?_bindings_of_not_mem receiver hname, if_neg hthis]
    exact ⟨hnone, hpush.lookup_eq_of_meets (.around hnone hencloses .here)⟩

end Layered

end Heap

/-- In a state that is reached, a call of a closure that was made in an environment

* fails, if the number of arguments is not that of the parameters, with the site of the function and
  with nothing done;
* otherwise comes to what the body yields in a new environment, from which the parameters, the
  receiver and all other names are seen as from a frame of the call. No other object is new, what was
  there is as it was and sees all names as before, and nothing is put out. -/
theorem State.Reached.frame_exact {s : State} (reached : s.Reached) {callee scope : Ref}
    {code : Function} (hcallee : s.heap.kind? callee = some (.closure code (.ref scope)))
    (hscope : s.heap.IsEnvironment scope) (chatty : Bool) (self : Evaluator) (receiver : Value)
    (args : List Value) :
    (args.length ≠ code.params.length →
      ∃ f : Failure, Eval.invoke chatty self callee receiver args s = .error (.failure f) s ∧
        f.kind = .arityMismatch ∧ f.site = some code.toNode ∧
        f.cause = .wrongCount code.title code.params.length args.length) ∧
    (args.length = code.params.length →
      ∃ (frame : Ref) (s' : State),
        Eval.invoke chatty self callee receiver args s =
          (do
            let v ← self code.body frame
            return v.result) s' ∧
        s.heap.get? frame = none ∧ s'.heap.IsEnvironment frame ∧
        s'.heap.IsFrame code scope receiver args frame ∧
        (∀ r, r ≠ frame → s'.heap.get? r = s.heap.get? r) ∧
        (∀ (r : Ref) name, r.index < s.heap.size →
          s'.heap.lookup r name = s.heap.lookup r name) ∧
        s'.signals = s.signals ∧ s'.writes = s.writes ∧ s'.chatter = s.chatter) := by
  have layered := reached.regular.layered
  have hlt : scope.index < s.heap.size := hscope.lt_size
  rw [Eval.invoke_of_closure hcallee]
  refine ⟨fun hlength => ?_, fun hlength => ?_⟩
  · exact ⟨_, Eval.enter_of_wrongCount hlength, rfl, rfl, rfl⟩
  · rw [Eval.enter_of_scope hlength hscope.scope?]
    have hpush := layered.push_frame hlt (code.bindings receiver args)
    refine ⟨s.heap.next, _, rfl, Array.getElem?_eq_none (Nat.le_refl _),
      Heap.isEnvironment_next .., layered.isFrame_push hlt hlength,
      fun r hr => Heap.get?_push_of_ne hr _, fun r name hr => ?_, rfl, rfl, rfl⟩
    exact layered.lookup_push_of_lt hpush hr

namespace Bench

/-- A function with two parameters of one name and, between them, one with that of the receiver. -/
def pick : Function :=
  ⟨some "pick", ["x", "this", "x"], .ret (.var "x" 1) 1, 1⟩

/-- A bench with an environment that binds a name, and a closure that is made there. -/
def picking : Bench :=
  ((((empty.step 1 (.environment none)).bench.step 1 (.value (.int 7))).bench.step 1
    (.register 0 "y" 1)).bench.step 1 (.closure pick 0)).bench

/-- The requests make the bench that the example is about. -/
lemma leads_picking : empty.Leads picking :=
  .tail (.tail (.tail (.single ⟨1, .environment none, rfl⟩) ⟨1, .value (.int 7), rfl⟩)
    ⟨1, .register 0 "y" 1, rfl⟩) ⟨1, .closure pick 0, rfl⟩

end Bench

/-- Called with one argument the function fails. Called with three, its body sees the last of them
and not the first, the second in place of the receiver, and a name from around the closure. -/
theorem State.Reached.frame_exact_repeatedParams :
    let s : State := ⟨Bench.picking.heap, Bench.picking.signals, [], ""⟩
    s.Reached ∧ s.heap.kind? ⟨1⟩ = some (.closure Bench.pick (.ref ⟨0⟩)) ∧
      s.heap.IsEnvironment ⟨0⟩ ∧
      (∃ f : Failure,
        Eval.invoke false (evaluate false 2) ⟨1⟩ (.atom .null) [.int 1] s = .error (.failure f) s ∧
        f.kind = .arityMismatch ∧ f.site = some Bench.pick.toNode) ∧
      ∃ (frame : Ref) (s' : State),
        Eval.invoke false (evaluate false 2) ⟨1⟩ (.atom .null) [.int 1, .int 2, .int 3] s =
          (do
            let v ← evaluate false 2 Bench.pick.body frame
            return v.result) s' ∧
        s.heap.get? frame = none ∧ s'.heap.lookup frame "x" = .int 3 ∧
        s'.heap.lookup frame "this" = .int 2 ∧ s'.heap.lookup frame "y" = .int 7 := by
  intro s
  have reached : s.Reached := .bench Bench.leads_picking
  have hcallee : s.heap.kind? ⟨1⟩ = some (.closure Bench.pick (.ref ⟨0⟩)) := rfl
  have hscope : s.heap.IsEnvironment ⟨0⟩ := ⟨none, rfl⟩
  have call := State.Reached.frame_exact reached hcallee hscope false (evaluate false 2) (.atom .null)
  obtain ⟨f, hrun, hkind, hsite, _⟩ := (call [.int 1]).1 (by decide)
  obtain ⟨frame, s', hrun', hnew, _, hframe, _, hlookup, _⟩ :=
    (call [.int 1, .int 2, .int 3]).2 rfl
  obtain ⟨i, last, hx⟩ := hframe.param "x" (by decide)
  obtain rfl : i = 2 := last.unique (LastAt.head (by decide)).tail.tail
  obtain ⟨j, last', hthis⟩ := hframe.param "this" (by decide)
  obtain rfl : j = 1 := last'.unique (LastAt.head (by decide)).tail
  have hy := (hframe.other "y" (by decide) (by decide)).2
  exact ⟨reached, hcallee, hscope, ⟨f, hrun, hkind, hsite⟩, frame, s', hrun', hnew,
    (Option.some.inj hx).symm, (Option.some.inj hthis).symm,
    hy.trans (hlookup ⟨0⟩ "y" hscope.lt_size)⟩

end Scriptlet

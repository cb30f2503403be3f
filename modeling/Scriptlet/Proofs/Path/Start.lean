import Scriptlet.Proofs.Global
import Scriptlet.Proofs.Path.Evaluate

/-!
# Runs of scripts take paths

A run starts with a fresh global scope, whose objects are all known: the scope itself and the
primitives that it binds. A contract that allows these and the body of the script holds at every
moment of the run.

Main definitions and statements:
* `Contract.Starts`, `Contract.typed_prepare`: what a contract has to say of a fresh global scope.
* `Contract.path_watch`, `Contract.permits_history`: the run of a script is a path, and all its
  moments are as the contract says.
-/

namespace Scriptlet

namespace Global

/-- The objects of a fresh global scope are the scope and its primitives. -/
lemma get?_prepare {r o} (ho : (prepare .empty).get? r = some o) :
    r = Script.scope ∧ o = ⟨.environment none, bindings Script.scope⟩ ∨
      ∃ entry ∈ primitives, o = ⟨.primitive entry.1 entry.2.1 entry.2.2, []⟩ := by
  obtain ho | ho := get?_prepare_cases ho
  · cases ho
  · exact ho

/-- The one environment of a fresh global scope is the scope itself. -/
lemma isEnvironment_prepare {r} (h : (prepare .empty).IsEnvironment r) : r = Script.scope := by
  obtain ⟨parent, hk⟩ := h
  obtain ⟨o, ho, hk⟩ := Option.map_eq_some_iff.1 hk
  obtain ⟨rfl, _⟩ | ⟨entry, _, rfl⟩ := get?_prepare ho
  · rfl
  · cases hk

/-- The global scope is an environment from the start. -/
lemma scope_isEnvironment : (prepare .empty).IsEnvironment Script.scope :=
  ⟨none, rfl⟩

end Global

namespace Contract

variable {C : Contract}

/-- The contract that allows everything. -/
def any : Contract where
  Val _ _ := True
  Kind _ _ := True
  Scope _ _ := True
  Fit _ := True
  Code _ _ := True
  Caller _ := True
  Yield _ _ _ := True
  val_mono _ _ := trivial
  kind_mono _ _ := trivial
  scope_mono _ _ := trivial
  fit_register _ _ := trivial
  fit_push _ _ _ := trivial
  val_atom := trivial
  val_plain _ := trivial
  val_closure _ := trivial
  kind_plain := trivial
  kind_closure _ _ := trivial
  kind_frame _ _ := trivial
  scope_frame _ := trivial
  code_part _ _ := trivial
  code_body _ := trivial
  caller_of_code _ _ := trivial
  yield_val _ := trivial
  yield_returning _ _ := trivial
  val_operand _ := trivial
  val_result _ := trivial

/-- Every state is ready for everything that is allowed. -/
lemma ready_any (scope s) : any.Ready scope s :=
  ⟨⟨fun _ _ _ => ⟨trivial, fun _ _ => trivial⟩, trivial⟩, trivial⟩

/-- A fresh global scope is as a contract says. -/
structure Starts (C : Contract) : Prop where
  typed : C.Typed (Global.prepare .empty)
  scope : C.Scope (Global.prepare .empty) Script.scope

/-- The contract that allows everything allows a fresh global scope. -/
lemma starts_any : any.Starts :=
  ⟨⟨fun _ _ _ => ⟨trivial, fun _ _ => trivial⟩, trivial⟩, trivial⟩

/-- A fresh global scope is typed when the contract allows what it consists of. -/
lemma typed_prepare (fit : C.Fit (Global.prepare .empty))
    (hscope : C.Kind (Global.prepare .empty) (.environment none))
    (hprim : ∀ entry ∈ Global.primitives,
      C.Kind (Global.prepare .empty) (.primitive entry.1 entry.2.1 entry.2.2))
    (hval : ∀ r : Ref, r.index < (Global.prepare .empty).size →
      C.Val (Global.prepare .empty) (.ref r)) :
    C.Typed (Global.prepare .empty) := by
  refine ⟨?_, fit⟩
  intro r o ho
  obtain ⟨_, rfl⟩ | ⟨entry, hentry, rfl⟩ := Global.get?_prepare ho
  · refine ⟨hscope, fun b hb => ?_⟩
    obtain ⟨s, e, _, hs⟩ := Global.mem_bindings hb
    exact e ▸ hval s hs
  · exact ⟨hprim entry hentry, List.forall_mem_nil _⟩

section History

variable {script : Script} (depth : Nat) (report : Report)
  (starts : C.Starts) (hc : C.Code .statement script.body)
include starts

/-- A run starts ready. -/
lemma ready_start : C.Ready Script.scope (script.start report) := by
  have hh := script.heap_start report
  exact ⟨hh ▸ starts.typed, hh ▸ starts.scope⟩

include hc

/-- The run of a script goes along a path. -/
theorem path_watch :
    C.Path report.verbose Script.scope (script.start report) (script.watch depth report).1
      (Eval.error? (Eval.outcome (script.watch depth report).2))
      (Eval.final (script.watch depth report).2) :=
  (evaluate report.verbose depth (ready_start report starts) hc).path

/-- All moments of the run of a script are as the contract says. -/
theorem permits_history :
    ∀ m ∈ script.history depth report, C.Typed m.state.heap ∧ C.Permits m := by
  have ready : C.Ready Script.scope (script.start report) := ready_start report starts
  intro m hm
  obtain rfl | hm := List.mem_cons.1 hm
  · exact ⟨ready.typed, trivial⟩
  · split at hm
    · exact (path_watch depth report starts hc).permits ready m hm
    · cases hm

/-- The heap that the run of a script ends with is typed. -/
theorem typed_interpret : C.Typed (interpret depth report script).state.heap := by
  obtain ⟨m, hm, e⟩ := Option.map_eq_some_iff.1 (script.getLast?_history depth report)
  exact e ▸ (permits_history depth report starts hc m (List.mem_of_getLast? hm)).1

end History

end Contract

end Scriptlet

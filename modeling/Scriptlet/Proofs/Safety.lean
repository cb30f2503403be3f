import Scriptlet.Proofs.Node.Snippet
import Scriptlet.Proofs.Report.Conclusion
import Scriptlet.Proofs.Soundness

/-!
# Safety of the evaluator

A script whose body is a block and that consists of expressions only goes wrong in the ways that the
language knows, whatever the report does with its failures: it never comes to something that cannot
be evaluated or shown, to a function without a scope, or to an object that is not there.

Main statements:
* `Ending.Safe`, `Run.Safe`: the ways in which such a run may end.
* `Script.interpret_safe`: it ends in one of these, and its heap is sound at every moment.
-/

namespace Scriptlet

/-- The endings that do not come from a mistake of the interpreter. -/
inductive Ending.Safe : Ending → Prop where
  | returned : Safe .returned
  | failure {f} :
    f.kind ≠ .general →
    Safe (.failure f)
  | enough {kind} :
    kind ≠ .general →
    Safe (.enough kind)
  | fault {f} :
    f.OfOperands →
    Safe (.fault f)
  | tooDeep : Safe .tooDeep

/-- A run that is over ended safely, with a global scope and a sound heap. -/
structure Run.Safe (run : Run) : Prop where
  ending : run.ending.Safe
  scope : run.scope = Script.scope
  outermost : run.state.heap.kind? run.scope = some (.environment none)
  heap : run.state.heap.Sound

/-- No node is a site of a failure of no special kind. -/
lemma Failure.Kind.Suits.ne_general {kind : Failure.Kind} {n} (h : kind.Suits n) :
    kind ≠ .general := by
  rintro rfl
  exact h

/-- A run of expressions that an error ended, if it is one that can arise, ends safely. -/
lemma Report.ending_safe_of_arises {root : Node} (proper : root.Proper) (r : Report) (scope : Ref)
    {e : Error} (he : e.Arises root) (s : State) : (r.ending scope (.error e s)).ending.Safe := by
  cases he with
  | @failure f p n hn hsite hsuits =>
    obtain h | h | ⟨m, fault, hm, hfault, h⟩ := r.ending_conclude_cases f scope s
    · exact h ▸ .failure hsuits.ne_general
    · exact h ▸ .enough hsuits.ne_general
    -- a verbose report shows the site, which may hold an integer without a text
    · obtain rfl := Option.some.inj (hsite.symm.trans hm)
      obtain rfl := proper.illustrate_error hn hfault
      exact h ▸ .fault .longInteger
  | operands hf => exact .fault hf
  | notExpression hn h => exact absurd (proper _ _ hn) h
  | tooDeep => exact .tooDeep

namespace Script

open Contract

/-- The run of a block of expressions ends safely, and its heap is sound at every moment, as is
everything that happens. -/
theorem interpret_safe (script : Script) (depth : Nat) (report : Report)
    (hblock : script.body.kind = .block) (proper : script.body.Proper) :
    (interpret depth report script).Safe ∧
      ∀ m ∈ script.history depth report, m.state.heap.Sound ∧ m.Sound := by
  have code : (sound script.body).Code .statement script.body := .root
  have ready : (sound script.body).Ready scope (script.start report) :=
    ready_start report starts_sound
  have path := path_watch depth report starts_sound code
  have typed := typed_interpret depth report starts_sound code
  rw [interpret_eq_ending script depth report hblock] at typed ⊢
  refine ⟨⟨?_, report.scope_ending .., ?_, typed.sound⟩, fun m hm => ?_⟩
  · cases hr : (script.watch depth report).2 with
    | ok v s => exact .returned
    | error e s =>
      rw [hr] at path
      exact report.ending_safe_of_arises proper scope (path.arises ready rfl) s
  · have hstart : (script.start report).heap.kind? scope = some (.environment none) :=
      script.heap_start report ▸ rfl
    rw [report.scope_ending, report.heap_ending]
    exact path.le scope _ hstart
  · obtain ⟨ht, hm⟩ := permits_history depth report starts_sound code m hm
    exact ⟨ht.sound, hm.sound⟩

/-- A script that calls a method of the global scope and then something that is no function. -/
def mishap : Script :=
  let self : Node := .method (.var "global" 2) "me" [] 2
  ⟨.block
    [.assign "me" (.function none [] (.block [.ret (.var "this" 1) 1] 1) 1) true 1,
      .setField self "x" (.literal (.str "no") 2) 2,
      .call (.var "x" 3) [] 3] 1⟩

/-- The run of a script that fails is safe, and it does fail. -/
theorem interpret_safe_mishap :
    mishap.body.kind = .block ∧ mishap.body.Proper ∧ (interpret 9 .quiet mishap).Safe ∧
      (interpret 9 .quiet mishap).ending =
        .failure ⟨.notCallable "no", some (.call (.var "x" 3) [] 3)⟩ := by
  have proper : mishap.body.Proper := by decide
  exact ⟨rfl, proper, (interpret_safe mishap 9 .quiet rfl proper).1, rfl⟩

end Script

end Scriptlet

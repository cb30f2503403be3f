import Mathlib.Data.List.Infix
import Scriptlet.Proofs.Law
import Scriptlet.Proofs.Report.Conclusion
import Scriptlet.Proofs.Watch

/-!
# The limit on the depth

How deep evaluations may be nested only matters to a run that is cut short for it. A run that ends
in any other way is the same within every greater limit. One that ends too deep is not noted by the
report, and what it has written is the beginning of what it writes within a greater limit, for
nothing that was written is ever taken back (`Script.interpret_of_le`).
-/

namespace Scriptlet

/-- What was written stays, and more may follow. -/
lemma State.law_writes : State.Law fun s t => s.writes <+: t.writes where
  refl _ := List.prefix_rfl
  trans := List.IsPrefix.trans
  register _ _ _ _ := List.prefix_rfl
  plain _ := List.prefix_rfl
  closure _ _ _ := List.prefix_rfl
  frame _ _ _ _ _ _ _ := List.prefix_rfl
  signal _ := List.prefix_rfl
  write s _ := List.prefix_append s.writes _
  chat _ _ := List.prefix_rfl

namespace Report

variable (r : Report) (scope : Ref)

/-- Concluding a run leaves what was written as it is. -/
lemma writes_ending (e : Result Value) : (r.ending scope e).state.writes = (Eval.final e).writes := by
  match e with
  | .ok _ _ | .error (.fault _) _ | .error .tooDeep _ => rfl
  | .error (.failure f) s =>
    simp only [ending, conclude, Eval.final]
    split <;> rfl

/-- A run ends too deep only when the evaluation did. -/
lemma ending_eq_tooDeep {e : Result Value} (h : (r.ending scope e).ending = .tooDeep) :
    ∃ s, e = .error .tooDeep s := by
  match e with
  | .ok _ _ | .error (.fault _) _ => cases h
  | .error .tooDeep s => exact ⟨s, rfl⟩
  | .error (.failure f) s =>
    obtain hf | hf | ⟨n, fault, _, _, hf⟩ := r.ending_conclude_cases f scope s
    all_goals cases hf.symm.trans h

end Report

namespace Script

/-- Within a greater limit on the depth a run is the same, with the same ending, state and report,
unless it ends too deep. Then its report is as it was before, and within the greater limit the run
writes what it has written, and maybe more. -/
theorem interpret_of_le (script : Script) (report : Report) {depth depth' : Nat}
    (hle : depth ≤ depth') :
    ((interpret depth report script).ending ≠ .tooDeep →
      interpret depth' report script = interpret depth report script) ∧
    ((interpret depth report script).ending = .tooDeep →
      (interpret depth report script).report = report ∧
        (interpret depth report script).state.writes <+:
          (interpret depth' report script).state.writes) := by
  by_cases hblock : script.body.kind = .block
  · have hcut := (State.law_writes.cut_evaluate report.verbose hle script.body scope
      (script.start report)).cut
    simp only [script.interpret_eq_ending _ report hblock, script.watch_result]
    obtain he | ⟨s, he, hwrites⟩ := hcut
    · rw [he]
      refine ⟨fun _ => rfl, fun hdeep => ?_⟩
      obtain ⟨s, hs⟩ := report.ending_eq_tooDeep scope hdeep
      rw [hs]
      exact ⟨rfl, List.prefix_rfl⟩
    · rw [he]
      refine ⟨fun hne => absurd rfl hne, fun _ => ⟨rfl, ?_⟩⟩
      rw [report.writes_ending, report.writes_ending]
      exact hwrites
  · rw [script.interpret_of_ne_block depth report hblock,
      script.interpret_of_ne_block depth' report hblock]
    exact ⟨fun _ => rfl, nofun⟩

/-- A script whose function prints what it is given and calls itself for ever. -/
def endless : Script :=
  ⟨.block
    [.function (some "f") ["x"]
        (.block [.call (.var "print" 2) [.var "x" 2] 2, .call (.var "f" 3) [.var "x" 3] 3] 1) 1,
      .call (.var "f" 4) [.literal (.str "on") 4] 4] 1⟩

/-- A script that prints a line and then calls something that is no function. -/
def farewell : Script :=
  ⟨.block
    [.call (.var "print" 1) [.literal (.str "bye") 1] 1, .call (.var "nobody" 2) [] 2] 1⟩

/-- The endless script writes one line within one limit and two within a greater one, and its report
notes nothing; the other script fails in the same way within both. -/
theorem interpret_of_le_endless :
    5 ≤ 8 ∧
      (interpret 5 .quiet endless).ending = .tooDeep ∧
      (interpret 5 .quiet endless).report = .quiet ∧
      (interpret 5 .quiet endless).state.writes <+: (interpret 8 .quiet endless).state.writes ∧
      (interpret 5 .quiet endless).state.writes.length = 1 ∧
      (interpret 8 .quiet endless).state.writes.length = 2 ∧
      (interpret 5 .quiet farewell).report.noted = [0] ∧
      interpret 8 .quiet farewell = interpret 5 .quiet farewell := by
  have hle : 5 ≤ 8 := by decide
  have hdeep : (interpret 5 .quiet endless).ending = .tooDeep := rfl
  obtain ⟨hreport, hwrites⟩ := (interpret_of_le endless .quiet hle).2 hdeep
  have hfails : (interpret 5 .quiet farewell).ending =
      .failure ⟨.notCallable "undefined", some (.call (.var "nobody" 2) [] 2)⟩ := rfl
  have hsame := (interpret_of_le farewell .quiet hle).1 (hfails ▸ nofun)
  exact ⟨hle, hdeep, hreport, hwrites, by decide +kernel, by decide +kernel, by decide +kernel, hsame⟩

end Script

end Scriptlet

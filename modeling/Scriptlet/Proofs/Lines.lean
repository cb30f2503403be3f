import Scriptlet.Proofs.Coupling.Start
import Scriptlet.Proofs.Node.Unlined
import Scriptlet.Proofs.Report.Conclusion

/-!
# What lines change

Lines are for diagnostics. Two scripts that are the same but for lines run alike with a quiet report:
with the same writes, the same ending and the same notes, the lines in the sites of failures apart,
and with the same heap, the lines in the code of closures apart (`Script.interpret_unlined`).
-/

namespace Scriptlet

/-- A function literal with all lines struck. -/
def Function.unlined (f : Function) : Function :=
  { f with body := f.body.unlined, line := 0 }

/-- What makes an object what it is, with all lines struck. -/
def Object.Kind.unlined : Object.Kind → Object.Kind
  | .closure code captured => .closure code.unlined captured
  | kind => kind

/-- An object with all lines struck. -/
def Object.unlined (o : Object) : Object := { o with kind := o.kind.unlined }

/-- A heap with all lines struck. -/
def Heap.unlined (h : Heap) : Heap := ⟨h.objects.map Object.unlined⟩

/-- A state with all lines struck. -/
def State.unlined (s : State) : State := { s with heap := s.heap.unlined }

/-- A failure with all lines struck. -/
def Failure.unlined (f : Failure) : Failure := { f with site := f.site.map Node.unlined }

/-- An ending with all lines struck. -/
def Ending.unlined : Ending → Ending
  | .failure f => .failure f.unlined
  | ending => ending

/-- A report with all lines struck. -/
def Report.unlined (r : Report) : Report := { r with ledger := r.ledger.map Failure.unlined }

/-- A run with all lines struck. -/
def Run.unlined (run : Run) : Run where
  ending := run.ending.unlined
  scope := run.scope
  state := run.state.unlined
  report := run.report.unlined

/-- A quiet report concludes failures alike that differ in lines only. -/
lemma Report.conclude_unlined {r : Report} (hq : r.verbose = false) {f f' : Failure}
    (hf : f.unlined = f'.unlined) {s s' : State} (hs : s.unlined = s'.unlined) (scope : Ref) :
    (r.conclude scope f s).unlined = (r.conclude scope f' s').unlined := by
  have hkind : f.kind = f'.kind := by
    show f.unlined.kind = f'.unlined.kind
    rw [hf]
  have hfull : (r.noting f).full = (r.noting f').full := rfl
  have hnoting : (r.noting f).unlined = (r.noting f').unlined := by
    simp only [unlined, noting, Array.map_push, hf]
  simp only [conclude, complain_enter, traceFailure_of_quiet hq, hfull, hkind, String.append_empty]
  cases (r.noting f').full <;> simp [Run.unlined, Ending.unlined, hf, hs, hnoting]

/-- Objects that correspond in place differ in lines only if their nodes do. -/
lemma Correspondence.InPlace.unlined_eq {C : Correspondence} (inPlace : C.InPlace)
    (hnodes : ∀ {n n'}, C.nodes n n' → n.unlined = n'.unlined) {r s} {o o' : Object}
    (alike : C.Objects r s o o') : o.unlined = o'.unlined := by
  obtain ⟨k, fs⟩ := o
  obtain ⟨k', fs'⟩ := o'
  obtain ⟨hk, hf⟩ := alike
  obtain rfl : fs = fs' := inPlace.fields_eq hf
  cases hk with
  | plain | outermost | primitive => rfl
  | environment hp => rw [inPlace.refs hp]
  | @closure code code' captured captured' hn hv =>
    have hcode : code.unlined = code'.unlined := by
      refine Function.toNode_injective ?_
      exact hnodes hn
    rw [inPlace.value_eq hv]
    simp only [Object.unlined, Object.Kind.unlined, hcode]

/-- The states that runs with quiet reports are in at the same time are the same but for lines. -/
lemma Coupling.States.unlined_eq {s s' : State}
    (states : (fromStart Node.matches_of_unlined false false).States s s') :
    s.unlined = s'.unlined := by
  have hobjects : s.heap.objects.map Object.unlined = s'.heap.objects.map Object.unlined :=
    states.map_objects fun _ _ _ alike => fromStart_inPlace.unlined_eq id alike
  have hheap : s.heap.unlined = s'.heap.unlined := congrArg Heap.mk hobjects
  have hchatter : s.chatter = s'.chatter :=
    (states.chatter.1 rfl).trans (states.chatter.2 rfl).symm
  simp only [State.unlined, hheap, states.signals_eq, hchatter]
  congr 1
  exact states.writes

namespace Script

/-- Scripts that are the same but for lines run alike with a report that is not verbose: they differ
in the lines of sites and of the code of closures only. -/
theorem interpret_unlined (script script' : Script) (depth : Nat) (report : Report)
    (hq : report.verbose = false) (hbody : script.body.unlined = script'.body.unlined) :
    (interpret depth report script).unlined = (interpret depth report script').unlined := by
  have hkind : script.body.kind = script'.body.kind :=
    script.body.kind_unlined ▸ script'.body.kind_unlined ▸ congrArg Node.kind hbody
  by_cases hblock : script.body.kind = .block
  · have hends := script.ends_alike Node.matches_of_unlined script' report report depth hbody
    rw [script.interpret_eq_ending depth _ hblock,
      script'.interpret_eq_ending depth _ (hkind ▸ hblock), script.watch_result,
      script'.watch_result]
    rw [hq] at hends ⊢
    generalize evaluate false depth script.body scope _ = r at hends
    generalize evaluate false depth script'.body scope _ = r' at hends
    cases hends with
    | ok _ states _ =>
      simp only [Report.ending, Run.unlined, states.unlined_eq]
    | error _ states he =>
      cases he with
      | @failure cause site site' hsite =>
        have hf : Failure.unlined ⟨cause, site⟩ = Failure.unlined ⟨cause, site'⟩ := by
          cases hsite with
          | none => rfl
          | some hn => exact congrArg (fun n => Failure.mk cause (some n)) hn
        exact Report.conclude_unlined hq hf states.unlined_eq scope
      | fault | tooDeep => simp only [Report.ending, Run.unlined, states.unlined_eq]
  · have hstart : script.start report = script'.start report := by
      rw [script.start_eq, script'.start_eq, script.chatter_start hq, script'.chatter_start hq]
    rw [script.interpret_of_ne_block depth _ hblock,
      script'.interpret_of_ne_block depth _ (hkind ▸ hblock), hkind, hstart]

/-- A script from some line on that calls a string in a function. -/
def calledWord (line : Int) : Script :=
  ⟨.block
    [.function (some "f") ["x"] (.block [.ret (.call (.var "x" (line + 1)) [] (line + 1)) line] line)
        line,
      .call (.var "f" (line + 2)) [.literal (.str "no") (line + 2)] (line + 2)] line⟩

/-- Wherever it stands, the same failure is noted, at its own line. -/
theorem interpret_unlined_calledWord :
    Report.quiet.verbose = false ∧ (calledWord 1).body.unlined = (calledWord 30).body.unlined ∧
      (interpret 9 .quiet (calledWord 1)).unlined =
        (interpret 9 .quiet (calledWord 30)).unlined ∧
      (interpret 9 .quiet (calledWord 1)).ending =
        .failure ⟨.notCallable "no", some (.call (.var "x" 2) [] 2)⟩ ∧
      (interpret 9 .quiet (calledWord 30)).ending =
        .failure ⟨.notCallable "no", some (.call (.var "x" 31) [] 31)⟩ :=
  ⟨rfl, rfl, interpret_unlined (calledWord 1) (calledWord 30) 9 .quiet rfl rfl, rfl, rfl⟩

end Script

end Scriptlet

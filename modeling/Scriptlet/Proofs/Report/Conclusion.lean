import Mathlib.Tactic.Lemma
import Scriptlet.Interpret

/-!
# Conclusions of reports

A failure that ends a run is the last one that the report notes, whatever comes of the note
(`Report.report_conclude`, `Report.getLast?_issues_noting`), and the run then ends with the failure,
with the limit of the report, or with the fault of showing the site
(`Report.ending_conclude_cases`).
-/

namespace Scriptlet

/-- A failure stays as it is for want of a site to give it. -/
@[simp]
lemma Failure.locate_none (f : Failure) : f.locate none = f := by
  obtain ⟨cause, site⟩ := f
  cases site <;> rfl

namespace Report

variable (r : Report) (f : Failure)

/-- The report with a new failure noted. -/
def noting : Report :=
  { r with ledger := r.ledger.push f, noted := r.noted ++ [r.next] }

/-- A new failure is the last one after it is noted. -/
lemma getLast?_issues_noting : (r.noting f).issues.getLast? = some f := by
  simp [noting, issues, next]

/-- Putting a failure in its new place of the ledger changes nothing. -/
lemma setIfInBounds_push : (r.ledger.push f).setIfInBounds r.next f = r.ledger.push f := by
  apply Array.ext_getElem?
  intro i
  by_cases hi : r.next = i
  · subst hi
    simp [next]
  · rw [Array.getElem?_setIfInBounds_ne hi]

/-- A complaint about a new failure notes it as it is. -/
lemma complain_enter :
    (r.enter f).complain r.next none =
      ⟨r.noting f, (r.traceFailure f).text,
        match (r.traceFailure f).fault with
        | some fault => .fault fault
        | none => if (r.noting f).full then .enough else .noted⟩ := by
  have hplace : (r.enter f).ledger[r.next]? = some f := Array.getElem?_push_size
  have hset : { r.enter f with
      ledger := (r.enter f).ledger.setIfInBounds r.next f
      noted := (r.enter f).noted ++ [r.next] } = r.noting f := by
    simp only [enter, noting, setIfInBounds_push]
  have htrace : (r.noting f).traceFailure f = r.traceFailure f := rfl
  simp only [complain, hplace, Failure.locate_none, hset, htrace]
  cases (r.traceFailure f).fault <;> rfl

variable {r} in
/-- A report that is not verbose does not trace failures. -/
lemma traceFailure_of_quiet (hq : r.verbose = false) (f : Failure) :
    r.traceFailure f = ⟨"", none⟩ := by
  rw [traceFailure]
  split
  · rfl
  · simp [trace, hq]

variable {r f} in
/-- A trace of a failure is cut short by a site that cannot be shown. -/
lemma traceFailure_fault {fault} (h : (r.traceFailure f).fault = some fault) :
    ∃ n, f.site = some n ∧ n.illustrate f.kind.name = .error fault := by
  rw [traceFailure] at h
  split at h
  · cases h
  · rename_i n hsite
    refine ⟨n, hsite, ?_⟩
    rw [trace] at h
    split at h
    · cases hn : n.illustrate f.kind.name with
      | ok text => simp [hn, Printout.line] at h
      | error fault' =>
        simp only [hn, Printout.line, Option.some.injEq] at h
        exact congrArg _ h
    · cases h

variable (scope : Ref) (s : State)

/-- The report of a run that a failure ended has noted it. -/
lemma report_conclude : (r.conclude scope f s).report = r.noting f := by
  simp only [conclude, complain_enter]
  split <;> rfl

variable {r f} in
/-- A run that a failure ended ends with the fault of tracing it, if there is one. -/
lemma ending_conclude_of_fault {fault} (h : (r.traceFailure f).fault = some fault) :
    (r.conclude scope f s).ending = .fault fault := by
  simp only [conclude, complain_enter, h]

/-- A run that a failure ended ends with it, with the limit of the report, or with the fault of
showing the site. -/
lemma ending_conclude_cases :
    (r.conclude scope f s).ending = .failure f ∨
      (r.conclude scope f s).ending = .enough f.kind ∨
      ∃ n fault, f.site = some n ∧ n.illustrate f.kind.name = .error fault ∧
        (r.conclude scope f s).ending = .fault fault := by
  cases hf : (r.traceFailure f).fault with
  | some fault =>
    obtain ⟨n, hsite, hn⟩ := traceFailure_fault hf
    exact .inr (.inr ⟨n, fault, hsite, hn, ending_conclude_of_fault scope s hf⟩)
  | none =>
    simp only [conclude, complain_enter, hf]
    by_cases hfull : (r.noting f).full
    · exact .inr (.inl (by simp [hfull]))
    · exact .inl (by simp [hfull])

end Report

end Scriptlet

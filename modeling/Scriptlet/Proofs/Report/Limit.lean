import Scriptlet.Proofs.Report.Conclusion
import Scriptlet.Proofs.Watch
import Scriptlet.Report.Session

/-!
# The limit of a report

A report that is shared by many scripts counts the failures that it notes, from reset to reset. It
gives up over the one with which the count comes to the limit, and over no other: what comes after
that is noted like anything before.

Main definitions and statements:
* `Session.complaint?`: the failure that a request complains about, if it complains about one.
* `Session.recorded`: how many complaints there were since the last reset, told from the requests.
* `Session.length_noted_after`: the notes of a report are as many.
* `Session.givesUp_iff`: a complaint makes the report give up exactly when the count is the limit.
* `Session.patient_beyond_limit`: so a report that has had enough does not stay that way.
-/

namespace Scriptlet

/-- The failure that ends the evaluation of a script's body, if one does. -/
def Script.failure? (script : Script) (depth : Nat) (report : Report) : Option Failure :=
  if script.body.kind = .block then
    match evaluate report.verbose depth script.body scope (script.start report) with
    | .error (.failure f) _ => some f
    | _ => none
  else none

/-- A run that a failure ends is concluded with it; any other run leaves the report alone. -/
lemma Script.interpret_cases (script : Script) (depth : Nat) (report : Report) :
    (∃ f s, script.failure? depth report = some f ∧
      interpret depth report script = report.conclude scope f s) ∨
    script.failure? depth report = none ∧ (interpret depth report script).report = report := by
  by_cases hblock : script.body.kind = .block
  · rw [script.interpret_eq_ending depth report hblock, script.watch_result, failure?, if_pos hblock]
    cases evaluate report.verbose depth script.body scope (script.start report) with
    | ok v s => exact .inr ⟨rfl, rfl⟩
    | error e s =>
      cases e with
      | failure f => exact .inl ⟨f, s, rfl, rfl⟩
      | fault f => exact .inr ⟨rfl, rfl⟩
      | tooDeep => exact .inr ⟨rfl, rfl⟩
  · rw [script.interpret_of_ne_block depth report hblock, failure?, if_neg hblock]
    exact .inr ⟨rfl, rfl⟩

namespace Report

variable {r : Report} {place : Nat} {f : Failure}

/-- Whether a reply tells that the report has had enough. -/
def Reply.GivesUp : Reply → Prop
  | .enough => True
  | .run r => ∃ kind, r.ending = .enough kind
  | _ => False

/-- A complaint about a failure of the ledger is noted. -/
lemma noted_complain (h : r.ledger[place]? = some f) (site) :
    (r.complain place site).report.noted = r.noted ++ [place] := by
  simp only [complain, h]
  split <;> rfl

/-- No complaint changes the limit. -/
lemma limit_complain (place site) : (r.complain place site).report.limit = r.limit := by
  rw [complain]
  split
  · rfl
  · dsimp only
    split <;> rfl

/-- A complaint whose trace can be shown is one too many when it makes the report full. -/
lemma verdict_complain (h : r.ledger[place]? = some f) {site}
    (shown : (r.traceFailure (f.locate site)).fault = none) :
    (r.complain place site).verdict =
      if (r.complain place site).report.full then .enough else .noted := by
  have htrace : ∀ ledger noted,
      (Report.mk r.verbose r.limit ledger noted).traceFailure (f.locate site) =
        r.traceFailure (f.locate site) := fun _ _ => rfl
  simp only [complain, h, htrace, shown]

/-- A run that a failure ends, if that can be shown, ends with the limit when the failure makes the
report full. -/
lemma ending_conclude (shown : (r.traceFailure f).fault = none) (scope s) :
    (r.conclude scope f s).ending =
      if (r.noting f).full then .enough f.kind else .failure f := by
  simp only [conclude, complain_enter, shown]
  by_cases hfull : (r.noting f).full
  · simp only [hfull, if_true]
  · simp only [hfull, if_false, Bool.false_eq_true]

namespace Session

/-- The failure that a request complains about, site and all, if it complains about one: the failure
that ends the script it runs, or one of those that the user made. -/
def complaint? (depth : Nat) (s : Session) : Request → Option Failure
  | .interpret script => script.failure? depth s.report
  | .again => s.script.bind fun script => script.failure? depth s.report
  | .complain number site =>
    (number.bind fun i => s.made[i]?).bind fun place =>
      s.report.ledger[place]?.map fun f => f.locate site
  | _ => none

/-- The number of failures recorded since the last reset, after a request and given the number
before it. -/
def tally (depth : Nat) (s : Session) (count : Nat) (request : Request) : Nat :=
  match request with
  | .reset => 0
  | request => if (s.complaint? depth request).isSome then count + 1 else count

/-- The number of failures recorded since the last reset, after requests that are answered in turn
and given the number before them. -/
def recorded (depth : Nat) (s : Session) (count : Nat) : List Request → Nat
  | [] => count
  | request :: rest =>
    recorded depth (s.answer depth request).session (s.tally depth count request) rest

/-- The session after requests that are answered in turn. -/
def after (depth : Nat) (s : Session) : List Request → Session
  | [] => s
  | request :: rest => after depth (s.answer depth request).session rest

variable (depth : Nat) (s : Session)

/-- One more request counts for what it does after those before it. -/
lemma recorded_concat (count : Nat) (requests : List Request) (request : Request) :
    s.recorded depth count (requests ++ [request]) =
      (s.after depth requests).tally depth (s.recorded depth count requests) request := by
  induction requests generalizing s count with
  | nil => rfl
  | cons first rest ih => exact ih _ _

/-- The answer to a request is that of running a script, of a complaint, or leaves the report's notes
as they are, unless it is a reset. -/
lemma answer_cases (request : Request) :
    (∃ script, s.complaint? depth request = script.failure? depth s.report ∧
      s.answer depth request = s.run depth script) ∨
    (∃ place f site, s.report.ledger[place]? = some f ∧
      s.complaint? depth request = some (f.locate site) ∧
      s.answer depth request = s.complain place site) ∨
    s.complaint? depth request = none ∧
      (s.answer depth request).session.report.limit = s.report.limit ∧
      (request ≠ .reset → (s.answer depth request).session.report.noted = s.report.noted) := by
  cases request with
  | interpret script => exact .inl ⟨script, rfl, rfl⟩
  | again =>
    cases hs : s.script with
    | none =>
      refine .inr (.inr ?_)
      simp [complaint?, answer, hs]
    | some script =>
      refine .inl ⟨script, ?_, ?_⟩
      · simp [complaint?, hs]
      · simp [answer, hs]
  | complain number site =>
    cases hp : number.bind fun i => s.made[i]? with
    | none =>
      refine .inr (.inr ?_)
      simp [complaint?, answer, hp]
    | some place =>
      cases hf : s.report.ledger[place]? with
      | none =>
        refine .inr (.inr ?_)
        simp [complaint?, answer, hp, hf, complain, Report.complain]
      | some f =>
        refine .inr (.inl ⟨place, f, site, hf, ?_, ?_⟩)
        · simp [complaint?, hp, hf]
        · simp [answer, hp]
  | reset => exact .inr (.inr ⟨rfl, rfl, fun h => absurd rfl h⟩)
  | make | info | trace | ok | sick | issues | console => exact .inr (.inr ⟨rfl, rfl, fun _ => rfl⟩)

/-- A script that is run is a complaint when a failure ends it. -/
lemma run_cases (script : Script) :
    (∃ f t, script.failure? depth s.report = some f ∧
      (s.run depth script).session.report = s.report.noting f ∧
      (s.run depth script).reply = .run (s.report.conclude Script.scope f t)) ∨
    script.failure? depth s.report = none ∧ (s.run depth script).session.report = s.report := by
  obtain ⟨f, t, hf, hrun⟩ | ⟨hf, hrun⟩ := script.interpret_cases depth s.report
  · refine .inl ⟨f, t, hf, ?_, congrArg Reply.run hrun⟩
    show (interpret depth s.report script).report = _
    rw [hrun, report_conclude]
  · exact .inr ⟨hf, hrun⟩

/-- What a request does to the number of notes: a reset strikes them, a complaint adds one, and
nothing else changes it. -/
lemma length_noted_answer (request : Request) :
    (s.answer depth request).session.report.noted.length =
      s.tally depth s.report.noted.length request := by
  by_cases hreset : request = .reset
  · subst hreset
    rfl
  have htally : s.tally depth s.report.noted.length request =
      if (s.complaint? depth request).isSome then s.report.noted.length + 1
      else s.report.noted.length := by
    cases request with
    | reset => exact absurd rfl hreset
    | _ => rfl
  rw [htally]
  obtain ⟨script, hc, ha⟩ | ⟨place, f, site, hf, hc, ha⟩ | ⟨hc, _, hn⟩ := s.answer_cases depth request
  · obtain ⟨f, t, hf, hr, _⟩ | ⟨hf, hr⟩ := s.run_cases depth script
    · simp [ha, hc, hr, hf, noting]
    · simp [ha, hc, hr, hf]
  · simp [ha, hc, complain, noted_complain hf]
  · simp [hc, hn hreset]

/-- The notes of a report are as many as there were complaints since the last reset. -/
theorem length_noted_after (requests : List Request) :
    (s.after depth requests).report.noted.length =
      s.recorded depth s.report.noted.length requests := by
  induction requests generalizing s with
  | nil => rfl
  | cons first rest ih =>
    have h := ih (s.answer depth first).session
    rw [length_noted_answer] at h
    exact h

/-- No request changes the limit. -/
lemma limit_answer (request : Request) :
    (s.answer depth request).session.report.limit = s.report.limit := by
  obtain ⟨script, _, ha⟩ | ⟨place, f, site, _, _, ha⟩ | ⟨_, hl, _⟩ := s.answer_cases depth request
  · rw [ha]
    obtain ⟨f, t, _, hr, _⟩ | ⟨_, hr⟩ := s.run_cases depth script
    · rw [hr]
      rfl
    · rw [hr]
  · rw [ha]
    exact limit_complain place site
  · exact hl

/-- The limit is what it was at first. -/
lemma limit_after (requests : List Request) :
    (s.after depth requests).report.limit = s.report.limit := by
  induction requests generalizing s with
  | nil => rfl
  | cons first rest ih => exact (ih _).trans (s.limit_answer depth first)

variable {s}

/-- A complaint whose trace can be shown makes the report give up when it makes the report full. -/
lemma givesUp_answer {request f} (hf : s.complaint? depth request = some f)
    (shown : (s.report.traceFailure f).fault = none) :
    (s.answer depth request).reply.GivesUp ↔
      (s.answer depth request).session.report.full = true := by
  obtain ⟨script, hc, ha⟩ | ⟨place, g, site, hg, hc, ha⟩ | ⟨hc, _, _⟩ := s.answer_cases depth request
  · rw [hc] at hf
    obtain ⟨g, t, hg, hreport, hreply⟩ | ⟨hg, _⟩ := s.run_cases depth script
    · obtain rfl := Option.some.inj (hg.symm.trans hf)
      rw [ha, hreport, hreply]
      simp only [Reply.GivesUp, ending_conclude shown]
      by_cases hfull : (s.report.noting g).full <;> simp [hfull]
    · rw [hg] at hf
      cases hf
  · obtain rfl := Option.some.inj (hc.symm.trans hf)
    rw [ha]
    simp only [complain, verdict_complain hg shown]
    by_cases hfull : (s.report.complain place site).report.full
    · simp [hfull, Reply.GivesUp]
    · simp only [hfull, if_false, Bool.false_eq_true, iff_false]
      split <;> exact id
  · rw [hc] at hf
    cases hf

/-- A complaint, direct or by a script that fails, whose trace can be shown makes a report with a
limit give up exactly when the failures recorded since the last reset, this one included, are as
many as the limit. -/
theorem givesUp_iff {verbose : Bool} {limit : Int} {before : List Request} {request : Request}
    {f : Failure} (hs : (new verbose (some limit)).after depth before = s)
    (hf : s.complaint? depth request = some f) (shown : (s.report.traceFailure f).fault = none) :
    (s.answer depth request).reply.GivesUp ↔
      ((new verbose (some limit)).recorded depth 0 (before ++ [request]) : Int) = limit := by
  subst hs
  have hlimit : ((new verbose (some limit)).after depth before).report.limit = some limit :=
    limit_after depth _ before
  have hcount : ((new verbose (some limit)).after depth before).report.noted.length =
      (new verbose (some limit)).recorded depth 0 before :=
    length_noted_after depth _ before
  rw [givesUp_answer depth hf shown, full, decide_eq_true_eq, limit_answer, hlimit,
    length_noted_answer, hcount, ← recorded_concat, Option.some.injEq]
  exact eq_comm

/-- A script that calls something that is no function. -/
def nobody : Script := ⟨.block [.call (.var "nobody" 6) [] 6] 0⟩

/-- The failure that ends it. -/
def nobodyFailure : Failure := ⟨.notCallable "undefined", some (.call (.var "nobody" 6) [] 6)⟩

/-- The second script that fails makes a report give up that has the limit two. -/
theorem givesUp_iff_nobody :
    ∃ s, (new true (some 2)).after 9 [.interpret nobody] = s ∧
      s.complaint? 9 .again = some nobodyFailure ∧
      (s.report.traceFailure nobodyFailure).fault = none ∧ (s.answer 9 .again).reply.GivesUp := by
  have hf : ((new true (some 2)).after 9 [.interpret nobody]).complaint? 9 .again =
      some nobodyFailure := rfl
  exact ⟨_, rfl, hf, rfl, (givesUp_iff 9 rfl hf rfl).2 rfl⟩

/-- A report does not give up over every failure from the limit on: with the limit one, the second
script that fails ends with its own failure. -/
theorem patient_beyond_limit :
    ¬ ∀ (depth : Nat) (verbose : Bool) (limit : Int) (before : List Request) (request : Request)
      (s : Session) (f : Failure),
      1 ≤ limit →
      (new verbose (some limit)).after depth before = s →
      s.complaint? depth request = some f →
      (s.report.traceFailure f).fault = none →
      ((s.answer depth request).reply.GivesUp ↔
        limit ≤ ((new verbose (some limit)).recorded depth 0 (before ++ [request]) : Int)) := by
  intro h
  have hup := h 9 false 1 [.interpret nobody] .again _ nobodyFailure (by decide) rfl rfl rfl
  obtain ⟨kind, hk⟩ := hup.2 (by decide)
  cases hk

end Session

end Report

end Scriptlet

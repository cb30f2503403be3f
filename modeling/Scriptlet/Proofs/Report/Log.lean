import Scriptlet.Proofs.Report.Limit

/-!
# The log of a report

A report is a log of complaints: its issues are the failures complained about since the last reset,
in order and as often as there were complaints, whatever came of each. Complaints are told here from
what the user of a session does, by the places of failures in the ledger; a failure that ended a
script can be held, and complained about again like one that the user made.

A failure in the ledger keeps its cause, from which its kind and its message follow, and a site that
it has, wherever it is noted.

Main definitions and statements:
* `Session.complained?`: the place of the failure that a request complains about.
* `Session.log`: the places of the failures complained about since the last reset.
* `Report.Keeps`: the failures of a report are in another one, later on.
* `Session.issues_faithful`: the issues of a report are the failures of the log.
-/

namespace Scriptlet

/-- A failure later on: of the same cause, and the same altogether once it has a site. -/
structure Failure.Keeps (f f' : Failure) : Prop where
  cause : f'.cause = f.cause
  site : f.site ≠ none → f' = f

namespace Failure.Keeps

/-- A failure stays what it is. -/
lemma refl (f : Failure) : f.Keeps f :=
  ⟨rfl, fun _ => rfl⟩

/-- What a failure becomes later on it becomes from the start. -/
lemma trans {f f' f'' : Failure} (keeps : f.Keeps f') (keeps' : f'.Keeps f'') : f.Keeps f'' := by
  refine ⟨keeps'.cause.trans keeps.cause, fun hsite => ?_⟩
  have hf := keeps.site hsite
  exact (keeps'.site (hf ▸ hsite)).trans hf

/-- A failure that is given a site is the same failure later on. -/
lemma locate (f : Failure) (site : Option Node) : f.Keeps (f.locate site) := by
  refine ⟨f.cause_locate site, fun hsite => ?_⟩
  obtain ⟨n, hn⟩ := Option.ne_none_iff_exists'.1 hsite
  exact locate_of_site hn site

end Failure.Keeps

namespace Report

/-- Every failure in the ledger of the one report is in that of the other one, later on. -/
def Keeps (r r' : Report) : Prop :=
  ∀ (place : Nat) f, r.ledger[place]? = some f → ∃ f', r'.ledger[place]? = some f' ∧ f.Keeps f'

namespace Keeps

variable {r r' r'' : Report}

/-- A report with the same ledger has the same failures. -/
lemma of_ledger_eq (h : r'.ledger = r.ledger) : r.Keeps r' :=
  fun place f hf => ⟨f, (congrArg (·[place]?) h).trans hf, .refl f⟩

/-- What is in the ledger through two changes in a row is there through both. -/
lemma trans (keeps : r.Keeps r') (keeps' : r'.Keeps r'') : r.Keeps r'' := by
  intro place f hf
  obtain ⟨f', hf', hkeeps⟩ := keeps place f hf
  obtain ⟨f'', hf'', hkeeps'⟩ := keeps' place f' hf'
  exact ⟨f'', hf'', hkeeps.trans hkeeps'⟩

/-- A new failure leaves the others in their places. -/
lemma of_push {g : Failure} (h : r'.ledger = r.ledger.push g) : r.Keeps r' := by
  intro place f hf
  have hplace : place ≠ r.ledger.size :=
    Nat.ne_of_lt (Array.getElem?_eq_some_iff.1 hf).1
  refine ⟨f, ?_, .refl f⟩
  rw [h, Array.getElem?_push, if_neg hplace, hf]

/-- No failure gets lost from the ledger. -/
lemma size_le (keeps : r.Keeps r') : r.ledger.size ≤ r'.ledger.size := by
  rw [← Nat.not_lt]
  intro hlt
  obtain ⟨f', hf', _⟩ := keeps r'.ledger.size _ (Array.getElem?_eq_getElem hlt)
  exact absurd (Array.getElem?_eq_some_iff.1 hf').1 (Nat.lt_irrefl _)

end Keeps

/-- A complaint gives the failure its site, in its place. -/
lemma ledger_complain {r : Report} {place f} (h : r.ledger[place]? = some f) (site) :
    (r.complain place site).report.ledger = r.ledger.setIfInBounds place (f.locate site) := by
  simp only [complain, h]
  split <;> rfl

/-- A failure complained about keeps its cause, and its site if it has one. -/
lemma keeps_complain (r : Report) (place site) : r.Keeps (r.complain place site).report := by
  cases hplace : r.ledger[place]? with
  | none =>
    have hsame : (r.complain place site).report = r := by simp only [complain, hplace]
    exact .of_ledger_eq (congrArg ledger hsame)
  | some f =>
    intro i g hg
    rw [ledger_complain hplace]
    by_cases hi : place = i
    · subst hi
      obtain rfl := Option.some.inj (hplace.symm.trans hg)
      have hlt := (Array.getElem?_eq_some_iff.1 hplace).1
      exact ⟨_, Array.getElem?_setIfInBounds_self_of_lt hlt, .locate f site⟩
    · exact ⟨g, (Array.getElem?_setIfInBounds_ne hi).trans hg, .refl g⟩

/-- All noted places are in the ledger. -/
def Filed (r : Report) : Prop :=
  ∀ place ∈ r.noted, place < r.ledger.size

/-- The issues are the failures at the noted places. -/
lemma Filed.map_some_issues {r : Report} (filed : r.Filed) :
    r.issues.map some = r.noted.map (r.ledger[·]?) := by
  obtain ⟨verbose, limit, ledger, noted⟩ := r
  rw [issues]
  induction noted with
  | nil => rfl
  | cons place rest ih =>
    have hplace := Array.getElem?_eq_getElem (filed place List.mem_cons_self)
    rw [List.filterMap_cons_some hplace, List.map_cons, List.map_cons, hplace]
    exact congrArg (_ :: ·) (ih fun i hi => filed i (List.mem_cons_of_mem _ hi))

namespace Session

/-- What the user of a session does: asks for something, with so much room for scripts, or takes hold
of a failure in the ledger, to complain about it later. -/
inductive Deed where
  | ask (depth : Nat) (request : Request)
  | hold (place : Nat)

/-- The session after a deed. -/
def proceed (s : Session) : Deed → Session
  | .ask depth request => (s.answer depth request).session
  | .hold place =>
    if place < s.report.ledger.size then { s with made := s.made.push place } else s

/-- The session after deeds in turn. -/
def course (s : Session) : List Deed → Session
  | [] => s
  | deed :: rest => (s.proceed deed).course rest

/-- The place in the ledger of the failure that a request complains about, if it complains about one.
The failure that ends a script is new, and gets the next place. -/
def complained? (depth : Nat) (s : Session) : Request → Option Nat
  | .interpret script => (script.failure? depth s.report).map fun _ => s.report.next
  | .again =>
    (s.script.bind fun script => script.failure? depth s.report).map fun _ => s.report.next
  | .complain number _ => number.bind fun i => s.made[i]?
  | _ => none

/-- The places of the failures complained about since the last reset, after a deed and given those
before it. -/
def record (s : Session) (log : List Nat) : Deed → List Nat
  | .ask _ .reset => []
  | .ask depth request => log ++ (s.complained? depth request).toList
  | .hold _ => log

/-- The places of the failures complained about since the last reset, in order, after deeds in turn
and given those before them. -/
def log (s : Session) (before : List Nat) : List Deed → List Nat
  | [] => before
  | deed :: rest => (s.proceed deed).log (s.record before deed) rest

/-- All places that a session knows are in the ledger. -/
structure Intact (s : Session) : Prop where
  noted : s.report.Filed
  made : ∀ place ∈ s.made, place < s.report.ledger.size

variable (depth : Nat) (s : Session)

/-- The log of a request, unless it strikes the notes, is the failure complained about, if there is
one. -/
lemma record_ask {request : Request} (hreset : request ≠ .reset) (before : List Nat) :
    s.record before (.ask depth request) = before ++ (s.complained? depth request).toList := by
  cases request with
  | reset => exact absurd rfl hreset
  | _ => rfl

/-- What a request does to a session. -/
inductive Effect : Request → Session → Prop where
  /-- A script is run and ends with a failure. -/
  | failed {request f} (script : Script) :
    s.complained? depth request = some s.report.next →
    s.complaint? depth request = some f →
    Effect request { s with report := s.report.noting f, script := some script }
  /-- A failure in the ledger is complained about. -/
  | complained {request place f} (site : Option Node) :
    s.complained? depth request = some place →
    s.complaint? depth request = some (f.locate site) →
    s.report.ledger[place]? = some f →
    Effect request { s with report := (s.report.complain place site).report }
  | made {kind message site} (f : Failure) :
    Effect (.make kind message site)
      { s with report := s.report.enter f, made := s.made.push s.report.next }
  | reset : Effect .reset { s with report := s.report.reset }
  /-- The report stays as it is. -/
  | idle {request} (script : Option Script) :
    request ≠ .reset →
    s.complained? depth request = none →
    Effect request { s with script }

/-- Running a script notes the failure that ends it, if one does. -/
lemma effect_run {request script} (hreset : request ≠ .reset)
    (hplace : s.complained? depth request =
      (script.failure? depth s.report).map fun _ => s.report.next)
    (hf : s.complaint? depth request = script.failure? depth s.report) :
    s.Effect depth request (s.run depth script).session := by
  rw [run]
  obtain ⟨f, t, hfails, hrun⟩ | ⟨hnone, hrun⟩ := script.interpret_cases depth s.report
  · rw [hfails] at hplace hf
    rw [hrun, report_conclude]
    exact .failed script hplace hf
  · rw [hnone] at hplace
    rw [hrun]
    exact .idle (some script) hreset hplace

variable {s} in
/-- Every request to an intact session has one of these effects. -/
lemma Intact.effect_answer (intact : s.Intact) (request : Request) :
    s.Effect depth request (s.answer depth request).session := by
  cases request with
  | interpret script => exact s.effect_run depth (by simp) rfl rfl
  | again =>
    rw [answer]
    cases hscript : s.script with
    | none =>
      refine .idle s.script (by simp) ?_
      rw [complained?, hscript]
      rfl
    | some script =>
      refine s.effect_run depth (by simp) ?_ ?_
      · rw [complained?, hscript]
        rfl
      · rw [complaint?, hscript]
        rfl
  | make kind message site => exact .made ⟨.reported kind message, site⟩
  | complain number site =>
    rw [answer]
    cases hnumber : number.bind fun i => s.made[i]? with
    | none => exact .idle s.script (by simp) hnumber
    | some place =>
      -- the user only knows places that are in the ledger, so there is a failure to complain about
      obtain ⟨i, _, hi⟩ := Option.bind_eq_some_iff.1 hnumber
      have hplace := Array.getElem?_eq_getElem (intact.made place (Array.mem_of_getElem? hi))
      refine .complained site hnumber ?_ hplace
      rw [complaint?, hnumber, Option.bind_some, hplace]
      rfl
  | reset => exact .reset
  | info | trace | ok | sick | issues | console => exact .idle s.script (by simp) rfl

variable {depth s} {request : Request} {t : Session}

namespace Effect

/-- No request takes a failure from the ledger or changes it, but for its site. -/
lemma keeps (effect : s.Effect depth request t) : s.report.Keeps t.report := by
  cases effect with
  | failed => exact .of_push rfl
  | complained site => exact s.report.keeps_complain _ site
  | made f => exact .of_push rfl
  | reset | idle => exact .of_ledger_eq rfl

/-- What a request does to the notes is what it does to the log. -/
lemma noted (effect : s.Effect depth request t) :
    t.report.noted = s.record s.report.noted (.ask depth request) := by
  cases effect with
  | failed script hplace =>
    rw [s.record_ask depth (by rintro rfl; cases hplace), hplace]
    rfl
  | complained site hplace hf hledger =>
    rw [s.record_ask depth (by rintro rfl; cases hplace), hplace]
    exact noted_complain hledger site
  | made => exact (List.append_nil _).symm
  | reset => rfl
  | idle script hreset hplace =>
    rw [s.record_ask depth hreset, hplace]
    exact (List.append_nil _).symm

/-- A failure that is complained about is then in its place, as the complaint has it. -/
lemma ledger (effect : s.Effect depth request t) {place : Nat}
    (h : s.complained? depth request = some place) :
    ∃ f, s.complaint? depth request = some f ∧ t.report.ledger[place]? = some f := by
  cases effect with
  | failed script hplace hf =>
    obtain rfl := Option.some.inj (hplace.symm.trans h)
    exact ⟨_, hf, Array.getElem?_push_size⟩
  | complained site hplace hf hledger =>
    obtain rfl := Option.some.inj (hplace.symm.trans h)
    refine ⟨_, hf, ?_⟩
    rw [ledger_complain hledger,
      Array.getElem?_setIfInBounds_self_of_lt (Array.getElem?_eq_some_iff.1 hledger).1]
  | made | reset => cases h
  | idle script hreset hplace => cases hplace.symm.trans h

/-- No request makes a session forget a failure that it knows. -/
lemma intact (effect : s.Effect depth request t) (intact : s.Intact) : t.Intact := by
  have hsize := effect.keeps.size_le
  constructor
  · -- a place in the log was noted before, or this request complains about the failure there
    intro place hplace
    rw [effect.noted] at hplace
    by_cases hreset : request = .reset
    · subst hreset
      cases hplace
    rw [s.record_ask depth hreset] at hplace
    obtain hold | hnew := List.mem_append.1 hplace
    · exact Nat.lt_of_lt_of_le (intact.noted place hold) hsize
    · obtain ⟨f, _, hf⟩ := effect.ledger (Option.mem_toList.1 hnew)
      exact (Array.getElem?_eq_some_iff.1 hf).1
  · have hmade : ∀ place ∈ s.made, place < t.report.ledger.size :=
      fun place hplace => Nat.lt_of_lt_of_le (intact.made place hplace) hsize
    cases effect with
    | made f =>
      intro place hplace
      obtain hold | rfl := Array.mem_push.1 hplace
      · exact hmade place hold
      · exact Array.size_push f ▸ Nat.lt_succ_self _
    | failed | complained | reset | idle => exact hmade

end Effect

/-- A deed keeps the failures in the ledger, does to the notes what it does to the log, and leaves all
places in the ledger. -/
lemma Intact.proceed (intact : s.Intact) (deed : Deed) :
    s.report.Keeps (s.proceed deed).report ∧
      (s.proceed deed).report.noted = s.record s.report.noted deed ∧ (s.proceed deed).Intact := by
  cases deed with
  | ask depth request =>
    have effect := intact.effect_answer depth request
    exact ⟨effect.keeps, effect.noted, effect.intact intact⟩
  | hold place =>
    rw [Session.proceed]
    split
    · rename_i hplace
      refine ⟨.of_ledger_eq rfl, rfl, intact.noted, fun i hi => ?_⟩
      obtain hold | rfl := Array.mem_push.1 hi
      · exact intact.made i hold
      · exact hplace
    · exact ⟨.of_ledger_eq rfl, rfl, intact⟩

/-- So do deeds in turn. -/
lemma Intact.course (intact : s.Intact) (deeds : List Deed) :
    s.report.Keeps (s.course deeds).report ∧
      (s.course deeds).report.noted = s.log s.report.noted deeds ∧ (s.course deeds).Intact := by
  induction deeds generalizing s with
  | nil => exact ⟨.of_ledger_eq rfl, rfl, intact⟩
  | cons deed rest ih =>
    obtain ⟨hfirst, hrecord, hintact⟩ := intact.proceed deed
    obtain ⟨hrest, hlog, hintact'⟩ := ih hintact
    rw [hrecord] at hlog
    exact ⟨hfirst.trans hrest, hlog, hintact'⟩

/-- A session without entries is intact. -/
lemma intact_new (verbose : Bool) (limit : Option Int) : (new verbose limit).Intact :=
  ⟨nofun, nofun⟩

/-- Whatever is done to a session with a new report, at every point

* the issues are the failures complained about since the last reset, in order and with repetitions,
  and the report is ok exactly if there are none;
* a complaint, direct or by a script that fails, puts its failure in the log as it is then, whatever
  the answer is;
* a complaint about what is no failure changes nothing;
* every failure keeps its cause in all that is done later, and its site as soon as it has one. -/
theorem issues_faithful (verbose : Bool) (limit : Option Int) (deeds : List Deed) :
    let s := (new verbose limit).course deeds
    let log := (new verbose limit).log [] deeds
    s.report.issues.map some = log.map (s.report.ledger[·]?) ∧
      (s.report.ok = true ↔ log = []) ∧
      (∀ depth request place, s.complained? depth request = some place →
        ∃ f, s.complaint? depth request = some f ∧
          (s.answer depth request).session.report.ledger[place]? = some f) ∧
      (∀ depth number site, s.complained? depth (.complain number site) = none →
        (s.answer depth (.complain number site)).session = s) ∧
      ∀ later, s.report.Keeps (s.course later).report := by
  intro s log
  obtain ⟨_, hnoted, intact⟩ := (intact_new verbose limit).course deeds
  have hnoted : s.report.noted = log := hnoted
  refine ⟨?_, ?_, ?_, ?_, ?_⟩
  · rw [intact.noted.map_some_issues, hnoted]
  · rw [ok, hnoted, List.isEmpty_iff]
  · exact fun depth request place h => (intact.effect_answer depth request).ledger h
  · intro depth number site h
    rw [answer, show (number.bind fun i => s.made[i]?) = none from h]
  · exact fun later => (intact.course later).1

/-- A script that calls a string. -/
def calledString : Script := ⟨.block [.call (.literal (.str "f") 3) [] 3] 3⟩

/-- A failure is made and complained about, a script fails, its failure is complained about once more,
and so is the first one, now with a site. The report gives up in between. -/
def complaints : List Deed :=
  [.ask 5 (.make .arityMismatch "bare" none), .ask 5 (.complain (some 0) none),
    .ask 5 (.interpret calledString), .hold 1, .ask 5 (.complain (some 1) none),
    .ask 5 (.complain (some 0) (some (.var "f" 2)))]

/-- The failures of these complaints are all in the log, the first one with the site that came last;
complained about yet again, it keeps that site. -/
theorem issues_faithful_complaints :
    let s := (new true (some 2)).course complaints
    let bare : Failure := ⟨.reported .arityMismatch "bare", some (.var "f" 2)⟩
    (new true (some 2)).log [] complaints = [0, 1, 1, 0] ∧
      s.report.issues.map some = [0, 1, 1, 0].map (s.report.ledger[·]?) ∧
      ¬ s.report.ok = true ∧
      s.report.ledger[0]? = some bare ∧
      s.complained? 5 (.complain (some 0) (some (.var "g" 4))) = some 0 ∧
      (s.answer 5 (.complain (some 0) (some (.var "g" 4)))).session.report.ledger[0]? = some bare ∧
      s.complained? 5 (.complain none none) = none ∧
      (s.answer 5 (.complain none none)).session = s ∧
      (s.course [.ask 5 .reset]).report.ok = true := by
  intro s bare
  obtain ⟨hissues, hok, hplace, hnone, _⟩ := issues_faithful true (some 2) complaints
  have hlog : (new true (some 2)).log [] complaints = [0, 1, 1, 0] := rfl
  rw [hlog] at hissues hok
  have hbare : s.report.ledger[0]? = some bare := rfl
  have hcomplained : s.complained? 5 (.complain (some 0) (some (.var "g" 4))) = some 0 := rfl
  obtain ⟨f, hf, hledger⟩ := hplace 5 _ 0 hcomplained
  have hkept : f = bare := Option.some.inj (hf.symm.trans rfl)
  exact ⟨hlog, hissues, fun h => absurd (hok.1 h) nofun, hbare, hcomplained, hkept ▸ hledger, rfl,
    hnone 5 none none rfl, rfl⟩

end Session

end Report

end Scriptlet

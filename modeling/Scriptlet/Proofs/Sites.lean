import Scriptlet.Proofs.Report.Conclusion
import Scriptlet.Proofs.Soundness

/-!
# Sites of failures

A failure gets its site where it comes up, or from the call that invoked the function where it came
up; the calls around that one leave it as it is. In the run of a script the site is hence a node of
the script that suits the failure, and when a call has the wrong number of arguments it is the
function literal of the closure or the call of the primitive, whichever was called.

Main definitions and statements:
* `Event.PassesOn`: a failure that ends one thing ends all others in the same way.
* `BreaksOff`: a row of moments that a call with the wrong number of arguments cuts short.
* `Contract.Path.passes`, `Contract.Path.breaksOff`: both for paths.
* `Script.failure_sites`: where the failures of scripts come from, and what becomes of their sites
  from any state.
-/

namespace Scriptlet

namespace Event

/-- How an evaluation or an invocation ended. -/
def outcome? : Event → Option (Except Error Value)
  | .leave _ _ _ o | .answer _ o => some o
  | _ => none

/-- The failure that goes on from an event. The call that invoked a function gives its own node for a
site to a failure that has none. -/
def failure? : Event → Option Failure
  | .leave _ _ _ (.error (.failure f)) => some f
  | .answer c (.error (.failure f)) => some (f.locate (some c.site))
  | _ => none

/-- A failure ends what was under way. -/
def Unwinds (f : Failure) (event : Event) : Prop :=
  event.outcome? = some (.error (.failure f)) ∨ ∃ frame, event = .closed frame

/-- A failure that goes on from an event, site and all, ends whatever ends later. -/
def PassesOn (event later : Event) : Prop :=
  ∀ f, event.failure? = some f → later.Unwinds f

/-- The failure that goes on from an evaluation is the one that ended it. -/
lemma failure?_leave {p n scope o f} (h : (Event.leave p n scope o).failure? = some f) :
    o = .error (.failure f) := by
  match o with
  | .error (.failure _) =>
    cases h
    rfl
  | .error (.fault _) | .error .tooDeep | .ok _ => cases h

/-- The failure that goes on from an invocation is the one that ended it, with a site. -/
lemma failure?_answer {c o f} (h : (Event.answer c o).failure? = some f) :
    ∃ g, o = .error (.failure g) ∧ g.locate (some c.site) = f := by
  match o with
  | .error (.failure g) =>
    cases h
    exact ⟨g, rfl, rfl⟩
  | .error (.fault _) | .error .tooDeep | .ok _ => cases h

/-- The error of an invocation from which a failure goes on, once it has a site. -/
lemma error_of_failure?_answer {c o f} (h : (Event.answer c o).failure? = some f) :
    (Eval.error? o).map (Error.locate c.site) = some (.failure f) := by
  obtain ⟨g, rfl, rfl⟩ := failure?_answer h
  rfl

end Event

/-- The failure of a call with the wrong number of arguments: at the function literal of a closure,
and at the call itself of a primitive. -/
inductive Invocation.Mismatch (c : Invocation) (h : Heap) : Failure → Prop where
  | closure {code captured} :
    h.kind? c.callee = some (.closure code captured) →
    c.args.length ≠ code.params.length →
    Mismatch c h ⟨.wrongCount code.title code.params.length c.args.length, some code.toNode⟩
  | primitive {name host expected} :
    h.kind? c.callee = some (.primitive name host (some expected)) →
    (c.args.length : Int) ≠ expected →
    Mismatch c h ⟨.wrongCount name expected c.args.length, some c.site⟩

/-- A call with the wrong number of arguments cuts a row of moments short: it is answered at once,
and after that things only end with its failure. -/
structure BreaksOff (l : List Moment) (c : Invocation) (s : State) (f : Failure) : Prop where
  mismatch : c.Mismatch s.heap f
  moments : ∃ before g after,
    l = before ++ ⟨.invoke c, s⟩ :: ⟨.answer c (.error (.failure g)), s⟩ :: after ∧
      g.locate (some c.site) = f ∧ ∀ m ∈ after, m.event.Unwinds f

/-- More moments before, and more that end with the failure. -/
lemma BreaksOff.extend {l c s f} (h : BreaksOff l c s f) (l₁) {l₂ : List Moment}
    (h₂ : ∀ m ∈ l₂, m.event.Unwinds f) : BreaksOff (l₁ ++ (l ++ l₂)) c s f := by
  obtain ⟨mismatch, before, g, after, rfl, hg, hafter⟩ := h
  refine ⟨mismatch, l₁ ++ before, g, after ++ l₂, by simp, hg, ?_⟩
  exact List.forall_mem_append.2 ⟨hafter, h₂⟩

/-- The error of an outcome that has one. -/
lemma Eval.error?_eq_some {o : Except Error α} {e} (h : Eval.error? o = some e) : o = .error e := by
  cases o with
  | ok a => cases h
  | error e' =>
    cases h
    rfl

namespace Contract

variable {C : Contract} {chatty : Bool} {scope : Ref} {s s' : State} {l : List Moment}
  {e : Option Error}

/-- Along a path failures pass on, and the path ends with any that it comes to. -/
theorem Path.passes (path : C.Path chatty scope s l e s') :
    l.Pairwise (fun m m' => m.event.PassesOn m'.event) ∧
      ∀ m ∈ l, ∀ f, m.event.failure? = some f → e = some (.failure f) := by
  induction path with
  | done | raise _ => exact ⟨.nil, List.forall_mem_nil _⟩
  | append _ _ ih₁ ih₂ =>
    obtain ⟨h₁, e₁⟩ := ih₁
    obtain ⟨h₂, e₂⟩ := ih₂
    -- the first path ended without an error, so nothing went on along it
    refine ⟨List.pairwise_append.2 ⟨h₁, h₂, ?_⟩, List.forall_mem_append.2 ⟨?_, e₂⟩⟩
    · intro m hm _ _ f hf
      cases e₁ m hm f hf
    · intro m hm f hf
      cases e₁ m hm f hf
  | operate op =>
    refine ⟨List.pairwise_singleton _ _, List.forall_mem_singleton.2 ?_⟩
    intro f hf
    cases op <;> cases hf
  | evaluate _ _ _ ih =>
    obtain ⟨h, e⟩ := ih
    refine ⟨pairwise_between (fun _ => nofun) h ?_, forall_mem_between nofun e ?_⟩
    · intro m hm f hf
      exact .inl (congrArg some (Eval.error?_eq_some (e m hm f hf)))
    · intro f hf
      rw [Event.failure?_leave hf]
      rfl
  | invoke _ _ path _ ih =>
    obtain ⟨h, e⟩ := ih
    refine ⟨pairwise_between (fun _ => nofun) h ?_, forall_mem_between nofun e ?_⟩
    · intro m hm f hf
      exact .inl (congrArg some (Eval.error?_eq_some (e m hm f hf)))
    · intro f hf
      obtain ⟨g, rfl, hg⟩ := Event.failure?_answer hf
      -- the failure of an invocation that went along a path has a site
      obtain ⟨n, hn⟩ := Option.isSome_iff_exists.1 (path.isSome_site rfl)
      rw [Failure.locate_of_site hn] at hg
      exact hg ▸ rfl
  | frame _ _ _ _ _ ih =>
    obtain ⟨h, e⟩ := ih
    refine ⟨List.pairwise_cons.2 ⟨fun _ _ => nofun, pairwise_between (fun _ => nofun) h ?_⟩,
      List.forall_mem_cons.2 ⟨nofun, forall_mem_between nofun e nofun⟩⟩
    exact fun _ _ _ _ => .inr ⟨_, rfl⟩
  | host _ _ _ _ =>
    refine ⟨pairwise_between (l := [_]) (fun _ => nofun) (List.pairwise_singleton _ _)
      (List.forall_mem_singleton.2 nofun),
      forall_mem_between (l := [_]) nofun (List.forall_mem_singleton.2 nofun) ?_⟩
    exact fun f => Event.error_of_failure?_answer
  | refuse _ _ =>
    exact ⟨pairwise_between (l := []) (fun _ => nofun) .nil (List.forall_mem_nil _),
      forall_mem_between (l := []) nofun (List.forall_mem_nil _)
        fun f => Event.error_of_failure?_answer⟩

/-- A path that ends with a wrong number of arguments breaks off with a call by a node of the
script. -/
theorem Path.breaksOff {f} (path : C.Path chatty scope s l e s') (he : e = some (.failure f))
    (hf : f.kind = .arityMismatch) : ∃ c t, BreaksOff l c t f ∧ C.Caller c.site := by
  induction path with
  | done | operate _ => cases he
  | append _ _ _ ih =>
    obtain ⟨c, t, h, hc⟩ := ih he
    exact ⟨c, t, by simpa using h.extend _ (List.forall_mem_nil _), hc⟩
  | raise hr =>
    -- no rule but that for invocations looks at the number of arguments
    cases he
    cases hr with
    | @failure p n cause hc hfits =>
      cases cause with
      | wrongCount | reported => exact hfits.elim
      | _ => cases hf
  | evaluate _ _ _ ih =>
    obtain ⟨c, t, h, hc⟩ := ih he
    refine ⟨c, t, h.extend [_] (List.forall_mem_singleton.2 (.inl ?_)), hc⟩
    exact congrArg some (Eval.error?_eq_some he)
  | invoke _ _ _ _ ih =>
    obtain ⟨c, t, h, hc⟩ := ih he
    refine ⟨c, t, h.extend [_] (List.forall_mem_singleton.2 (.inl ?_)), hc⟩
    exact congrArg some (Eval.error?_eq_some he)
  | frame _ _ _ _ _ ih =>
    obtain ⟨c, t, h, hc⟩ := ih he
    exact ⟨c, t, h.extend [_, _] (List.forall_mem_singleton.2 (.inr ⟨_, rfl⟩)), hc⟩
  | @host _ s c name host _ r _ _ _ hr =>
    -- a routine of the host that is run was given as many arguments as it asks for
    obtain ⟨err, herr, hlocate⟩ := Option.map_eq_some_iff.1 he
    have ends : host.Ends c.args s r := hr ▸ Eval.runHost_ends ..
    cases ends with
    | answer _ _ => cases herr
    | fault _ _ | refuse _ =>
      cases herr
      cases hlocate
    | giveUp _ =>
      cases herr
      cases hlocate
      cases hf
  | @refuse _ s c _ hc hr =>
    refine ⟨c, s, ?_, hc.site⟩
    cases hr with
    | closure hk hn =>
      cases he
      exact ⟨.closure hk hn, [], _, [], rfl, rfl, List.forall_mem_nil _⟩
    | primitive hk hn =>
      cases he
      exact ⟨.primitive hk hn, [], _, [], rfl, rfl, List.forall_mem_nil _⟩
    | unwritten _ _ _ => cases he

end Contract

/-- Where the failure that ended a row of moments comes from: from a node of a tree that suits it,
and from the call itself when the number of arguments was wrong. -/
structure Failure.ComesFrom (f : Failure) (root : Node) (l : List Moment) : Prop where
  site : ∃ p n, root.Occurs p n ∧ f.site = some n ∧ f.kind.Suits n
  call : f.kind = .arityMismatch →
    ∃ c t, BreaksOff l c t f ∧ (∃ p, root.Occurs p c.site) ∧
      (c.site.kind = .call ∨ c.site.kind = .method)

namespace Script

open Contract

/-- A failure that ends a script comes from the script, and is the one that its report noted last.
From any state whatever, a failure that ends an evaluation has a site, and a failure that goes on
from an evaluation or a call inside ends everything around it as it is, the evaluation included. -/
theorem failure_sites :
    (∀ (script : Script) depth (report : Report) f s,
      evaluate report.verbose depth script.body scope (script.start report) =
          .error (.failure f) s →
        f.ComesFrom script.body (script.watch depth report).1 ∧
          (script.body.kind = .block →
            (interpret depth report script).report.issues.getLast? = some f)) ∧
      ∀ chatty depth p n env s,
        (∀ f s', evaluate chatty depth n env s = .error (.failure f) s' → f.site.isSome) ∧
          (Watched.evaluate chatty depth p n env s).1.Pairwise
            (fun m m' => m.event.PassesOn m'.event) ∧
          ∀ m ∈ (Watched.evaluate chatty depth p n env s).1, ∀ f, m.event.failure? = some f →
            ∃ s', evaluate chatty depth n env s = .error (.failure f) s' := by
  constructor
  · intro script depth report f s he
    have code : (sound script.body).Code .statement script.body := .root
    have ready : (sound script.body).Ready scope (script.start report) :=
      ready_start report starts_sound
    have path := path_watch depth report starts_sound code
    rw [script.watch_result, he] at path
    refine ⟨⟨?_, path.breaksOff rfl⟩, fun hblock => ?_⟩
    · cases path.arises ready rfl with
      | failure hn hsite hsuits => exact ⟨_, _, hn, hsite, hsuits⟩
    · rw [interpret_eq_ending script depth report hblock, script.watch_result, he]
      simp only [Report.ending, Report.report_conclude, Report.getLast?_issues_noting]
  · intro chatty depth p n env s
    have path := path_evaluate (p := p) (n := n) chatty depth (ready_any env s) trivial
    refine ⟨fun f s' he => ?_, path.passes.1, fun m hm f hf => ?_⟩
    · rw [he] at path
      exact path.isSome_site rfl
    · have he := Eval.error?_eq_some (path.passes.2 m hm f hf)
      cases h : evaluate chatty depth n env s with
      | ok v s' => simp [h, Eval.outcome] at he
      | error e s' =>
        rw [h] at he
        cases he
        exact ⟨s', rfl⟩

/-- A script that calls an operator with one operand in a function, whose result is an argument. -/
def lonelyOperand : Script :=
  ⟨.block
    [.assign "f" (.function none [] (.block [.call (.var "+" 2) [.literal (.int 1) 2] 2] 1) 1)
        true 1,
      .call (.var "print" 3) [.call (.var "f" 3) [] 3] 3] 1⟩

/-- The failure of an operator with one operand is noted at the call of the operator. -/
theorem failure_sites_lonelyOperand :
    ∃ f s,
      evaluate false 9 lonelyOperand.body scope (lonelyOperand.start .quiet) =
        .error (.failure f) s ∧
      f.site = some (.call (.var "+" 2) [.literal (.int 1) 2] 2) ∧
      f.ComesFrom lonelyOperand.body (lonelyOperand.watch 9 .quiet).1 ∧
      (interpret 9 .quiet lonelyOperand).report.issues.getLast? = some f := by
  refine ⟨⟨.wrongCount "+" 2 1, some (.call (.var "+" 2) [.literal (.int 1) 2] 2)⟩,
    Eval.final (evaluate false 9 lonelyOperand.body scope (lonelyOperand.start .quiet)), ?_⟩
  have he : evaluate false 9 lonelyOperand.body scope (lonelyOperand.start .quiet) =
      .error (.failure ⟨.wrongCount "+" 2 1, some (.call (.var "+" 2) [.literal (.int 1) 2] 2)⟩)
        (Eval.final (evaluate false 9 lonelyOperand.body scope (lonelyOperand.start .quiet))) :=
    rfl
  obtain ⟨hfrom, hnoted⟩ := failure_sites.1 lonelyOperand 9 .quiet _ _ he
  exact ⟨he, rfl, hfrom, hnoted rfl⟩

end Script

end Scriptlet

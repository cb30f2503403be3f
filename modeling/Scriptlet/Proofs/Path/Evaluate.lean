import Scriptlet.Proofs.Path

/-!
# Evaluation takes paths

Whatever the contract, an evaluation of code that the contract allows, from a state that is ready for
it, goes along a path and yields what the contract says (`Contract.evaluate`), and so does an
invocation with what the contract allows (`Contract.runs_invoke`). There is one lemma for each rule
of the evaluator, with the evaluation of the nodes inside as a hypothesis; the limit on the depth
then is the induction.
-/

namespace Scriptlet.Contract

open Node (Position)
open Watched

variable {C : Contract} {chatty : Bool} {scope : Ref} {s : State} {α β : Type}

/-- After a computation that leaves the state as it is, the next one starts where that did. -/
lemma observe_bind_run {x : Eval α} {a} (hx : x s = .ok a s) (f : α → Watched β) :
    (observe x >>= f) s = f a s := by
  have h : observe x s = ([], .ok a s) := congrArg (Prod.mk []) hx
  exact bind_of_ok h f

/-- A watched computation goes along a path, and what it ends with, if it does, is as stated. -/
structure Runs (C : Contract) (chatty : Bool) (scope : Ref) (x : Watched α) (s : State)
    (post : Heap → α → Prop) : Prop where
  path :
    C.Path chatty scope s (x s).1 (Eval.error? (Eval.outcome (x s).2)) (Eval.final (x s).2)
  post : ∀ a, Eval.outcome (x s).2 = .ok a → post (Eval.final (x s).2).heap a

namespace Runs

/-- Computations that do the same from a state do so alike. -/
lemma of_eq {x y : Watched α} {post} (hy : C.Runs chatty scope y s post) (e : x s = y s) :
    C.Runs chatty scope x s post :=
  ⟨e ▸ hy.path, e ▸ hy.post⟩

/-- A computation that does nothing. -/
lemma pure {post : Heap → α → Prop} {a} (ha : post s.heap a) :
    C.Runs chatty scope (pure a) s post := by
  refine ⟨.done, fun b hb => ?_⟩
  cases hb
  exact ha

/-- One computation after another. -/
lemma bind {x : Watched α} {f : α → Watched β} {post post'} (ready : C.Ready scope s)
    (hx : C.Runs chatty scope x s post)
    (hf : ∀ a s₁, s.heap ≤ s₁.heap → C.Ready scope s₁ → post s₁.heap a →
      C.Runs chatty scope (f a) s₁ post') :
    C.Runs chatty scope (x >>= f) s post' := by
  obtain ⟨path, ha⟩ := hx
  cases h : x s with
  | mk l r =>
    rw [h] at path ha
    cases r with
    | ok a s₁ =>
      have hr := hf a s₁ path.le (path.ready ready) (ha a rfl)
      have e := bind_of_ok h f
      refine ⟨?_, ?_⟩
      · rw [e]
        exact .append path hr.path
      · rw [e]
        exact hr.post
    | error err s₁ =>
      have e := bind_of_error h f
      refine ⟨?_, fun b hb => ?_⟩
      · rw [e]
        exact path
      · rw [e] at hb
        cases hb

/-- A computation that leaves the state as it is and ends with a value. -/
lemma observe {x : Eval α} {post : Heap → α → Prop} {a} (hx : x s = .ok a s) (ha : post s.heap a) :
    C.Runs chatty scope (observe x) s post :=
  (Runs.pure ha).of_eq (congrArg (Prod.mk []) hx)

/-- A computation after one that leaves the state as it is. -/
lemma observe_bind {x : Eval α} {f : α → Watched β} {post : Heap → β → Prop} {a}
    (hx : x s = .ok a s) (hf : C.Runs chatty scope (f a) s post) :
    C.Runs chatty scope (Watched.observe x >>= f) s post :=
  hf.of_eq (observe_bind_run hx f)

/-- A computation whose failures get a site: its path ends with the error that this makes of its
own. -/
lemma of_located {x : Watched α} {post : Heap → α → Prop} {site : Node}
    (path : C.Path chatty scope s (x s).1
      ((Eval.error? (Eval.outcome (x s).2)).map (Error.locate site)) (Eval.final (x s).2))
    (ha : ∀ a, Eval.outcome (x s).2 = .ok a → post (Eval.final (x s).2).heap a) :
    C.Runs chatty scope (x.located site) s post := by
  have hfinal : Eval.final (x.located site s).2 = Eval.final (x s).2 :=
    Eval.final_located x.erase site s
  have herror : Eval.error? (Eval.outcome (x.located site s).2) = _ :=
    Eval.error?_located x.erase site s
  refine ⟨?_, fun a hb => ?_⟩
  · rw [hfinal, herror]
    exact path
  · rw [hfinal]
    exact ha a (Eval.outcome_located_eq_ok_iff.1 hb)

/-- Giving a site to the failures of a computation that goes along a path: they all have one. -/
lemma located {x : Watched α} {post : Heap → α → Prop} (hx : C.Runs chatty scope x s post)
    (site : Node) : C.Runs chatty scope (x.located site) s post := by
  -- nothing is left to give a site to
  have e : (Eval.error? (Eval.outcome (x s).2)).map (Error.locate site) =
      Eval.error? (Eval.outcome (x s).2) := by
    cases he : Eval.error? (Eval.outcome (x s).2) with
    | none => rfl
    | some err =>
      cases err with
      | failure f =>
        obtain ⟨n, hn⟩ := Option.isSome_iff_exists.1 (hx.path.isSome_site he)
        simp only [Option.map_some, Error.locate, Failure.locate_of_site hn]
      | fault | tooDeep => rfl
  exact of_located (e.symm ▸ hx.path) hx.post

/-- A computation that leaves the state as it is and ends with an error. -/
lemma observe_error {x : Eval α} {post : Heap → α → Prop} {e} (hx : x s = .error e s)
    (he : C.Raises s e) : C.Runs chatty scope (Watched.observe x) s post := by
  refine ⟨?_, fun b hb => ?_⟩
  · simp only [Watched.observe, hx]
    exact .raise he
  · simp only [Watched.observe, hx] at hb
    cases hb

/-- An operation that ends with a value. -/
lemma perform {event} {x : Eval α} {post : Heap → α → Prop} {a s'} (hx : x s = .ok a s')
    (op : C.Operates scope s ⟨event, s'⟩) (ha : post s'.heap a) :
    C.Runs chatty scope (perform event x) s post := by
  refine ⟨?_, fun b hb => ?_⟩
  · simp only [Watched.perform, hx]
    exact .operate op
  · simp only [Watched.perform, hx] at hb ⊢
    cases hb
    exact ha

/-- An operation that ends with an error. -/
lemma perform_error {event} {x : Eval α} {post : Heap → α → Prop} {e s'} (hx : x s = .error e s')
    (op : C.Operates scope s ⟨event, s'⟩) (he : C.Raises s' e) :
    C.Runs chatty scope (Watched.perform event x) s post := by
  refine ⟨?_, fun b hb => ?_⟩
  · simp only [Watched.perform, hx]
    exact .append (.operate op) (.raise he)
  · simp only [Watched.perform, hx] at hb
    cases hb

/-- Binding a field in the scope or in an object that is as the contract says. -/
lemma register {r name value} (hr : r = scope ∨ C.Val s.heap (.ref r)) (hv : C.Val s.heap value) :
    C.Runs chatty scope (Watched.perform (.use r) (Eval.register r name value)) s fun _ _ => True :=
  perform rfl (.bind hr hv) trivial

/-- Looking up a field in the scope or in an object that is as the contract says. -/
lemma lookup {r name} (ready : C.Ready scope s) (hr : r = scope ∨ C.Val s.heap (.ref r)) :
    C.Runs chatty scope (Watched.perform (.use r) (Eval.lookup r name)) s C.Val :=
  perform rfl (.look hr) (ready.typed.lookup r name)

/-- The evaluation of a node, with its moments of beginning and end. -/
lemma evaluate {x : Watched Value} {p n} (hc : C.Code p n) (hx : C.Runs chatty scope x s (C.Yield p)) :
    C.Runs chatty scope (between (.enter p n scope) (.leave p n scope) x) s (C.Yield p) :=
  ⟨.evaluate hc hx.path hx.post, hx.post⟩

/-- Showing a value in a failure that fits its site. -/
lemma show_fail {v : Value} {cause : String → Failure.Cause} {p n} {post : Heap → α → Prop}
    (hc : C.Code p n) (hf : ∀ shown, (cause shown).Fits n) :
    C.Runs chatty scope (Watched.observe do
      let shown ← Eval.read fun h => h.text v
      Eval.fail (cause shown) (some n)) s post := by
  obtain h | ⟨shown, h⟩ := Eval.show_fail_cases v cause (some n) s
  · exact observe_error h (.operands .longInteger)
  · exact observe_error h (.failure hc (hf shown))

/-- What holds of the values that a computation ends with may be weakened. -/
lemma mono {x : Watched α} {post post' : Heap → α → Prop} (hx : C.Runs chatty scope x s post)
    (h : ∀ h a, post h a → post' h a) : C.Runs chatty scope x s post' :=
  ⟨hx.path, fun a ha => h _ a (hx.post a ha)⟩

/-- Making an object without fields, of a kind that the contract allows. -/
lemma new {kind : Object.Kind} (hshape : kind.shape ≠ .primitive) (hk : C.Kind s.heap kind)
    (hv : C.Val (s.heap.push ⟨kind, []⟩) (.ref s.heap.next)) :
    C.Runs chatty scope (Watched.perform .step (Eval.new ⟨kind, []⟩)) s fun h r => C.Val h (.ref r) :=
  perform rfl (.make hshape hk (List.forall_mem_nil _)) hv

/-- Binding a function under its name, if it has one. -/
lemma registerNamed (name : Option String) {f} (hf : C.Val s.heap (.ref f)) :
    C.Runs chatty scope (Watched.perform (.use scope) (Eval.registerNamed scope name f)) s
      fun _ _ => True := by
  cases name with
  | none => exact perform rfl (.look (.inl rfl)) trivial
  | some name => exact register (.inl rfl) hf

/-- The demand that a name is free. -/
lemma demandFree {p name value declares line} (hc : C.Code p (.assign name value declares line)) :
    C.Runs chatty scope
      (Watched.perform (.use scope)
        (Eval.demandFree declares scope name (.assign name value declares line))) s
      fun _ _ => True := by
  obtain h | ⟨rfl, h⟩ := Eval.demandFree_cases declares scope name _ s
  · exact perform h (.look (.inl rfl)) trivial
  · exact perform_error h (.look (.inl rfl)) (.failure hc ⟨value, line, rfl⟩)

/-- The owner of a field. -/
lemma asObject {v : Value} {p n} (hc : C.Code p n) (hf : ∀ shown, (Failure.Cause.notObject shown).Fits n)
    (hv : C.Val s.heap v) :
    C.Runs chatty scope (Watched.observe (Eval.asObject v n)) s fun h r => C.Val h (.ref r) := by
  obtain ⟨r, rfl, _, h⟩ | h | ⟨shown, h⟩ := Eval.asObject_cases v n s
  · exact observe h hv
  · exact observe_error h (.operands .longInteger)
  · exact observe_error h (.failure hc (hf shown))

end Runs

/-- A routine of the host that is given as many arguments as it asks for. -/
lemma runs_host {c : Invocation} {name host arity} (hc : C.Calls s.heap c)
    (hk : s.heap.kind? c.callee = some (.primitive name host arity))
    (hn : ∀ expected, arity = some expected → (c.args.length : Int) = expected) :
    C.Runs chatty scope
      ((between (.invoke c) (.answer c)
        (Watched.perform .step (Eval.runHost chatty host c.args))).located c.site) s C.Val :=
  .of_located (.host hc hk hn rfl) (hc.val_answer (Eval.runHost_ends ..))

/-- A call that is refused. -/
lemma runs_refused {c : Invocation} {x : Watched Value} {e} (hc : C.Calls s.heap c)
    (hr : c.Refused s.heap e) (hx : x s = ([], .error e s)) :
    C.Runs chatty scope ((between (.invoke c) (.answer c) x).located c.site) s C.Val := by
  refine .of_located ?_ fun v hv => ?_
  · simp only [between, hx]
    exact .refuse hc hr
  · simp only [between, hx] at hv
    cases hv

/-- A primitive that is given more or fewer arguments than it asks for. -/
lemma runs_mismatch {c : Invocation} {name host} {expected : Int} (hc : C.Calls s.heap c)
    (hk : s.heap.kind? c.callee = some (.primitive name host (some expected)))
    (hn : (c.args.length : Int) ≠ expected) :
    C.Runs chatty scope
      ((between (.invoke c) (.answer c)
        (Watched.observe (Eval.refuse name expected c.args.length))).located c.site) s C.Val := by
  obtain ⟨hnone, h⟩ | ⟨_, h⟩ := Eval.refuse_cases name expected c.args.length s
  · exact runs_refused hc (.unwritten hk hn hnone) (congrArg (Prod.mk []) h)
  · exact runs_refused hc (.primitive hk hn) (congrArg (Prod.mk []) h)

section Rules

variable {self : Watcher}
  (hself : ∀ p n scope s, C.Ready scope s → C.Code p n →
    C.Runs chatty scope (self p n scope) s (C.Yield p))
include hself

/-- The rule for instructions. -/
lemma runs_instructions {p} (body : List Node) (ready : C.Ready scope s)
    (hc : ∀ n ∈ body, C.Code p n) :
    C.Runs chatty scope (instructions self p scope body) s (C.Yield p) := by
  induction body generalizing s with
  | nil => exact .pure (C.yield_val C.val_atom)
  | cons first rest ih =>
    refine (hself p first scope s ready (hc first List.mem_cons_self)).bind ready
      fun v s₁ _ ready₁ hv => ?_
    have hr := ih ready₁ fun n hn => hc n (List.mem_cons_of_mem _ hn)
    cases v with
    | returning signal v => exact .pure hv
    | atom a => exact hr
    | ref r => exact hr

/-- The rule for arguments. -/
lemma runs_arguments (args : List Node) (ready : C.Ready scope s)
    (hc : ∀ n ∈ args, C.Code .operand n) :
    C.Runs chatty scope (arguments self scope args) s fun h vs => ∀ v ∈ vs, C.Val h v := by
  induction args generalizing s with
  | nil => exact .pure (List.forall_mem_nil _)
  | cons first rest ih =>
    refine (hself .operand first scope s ready (hc first List.mem_cons_self)).bind ready
      fun v s₁ _ ready₁ hv => ?_
    refine (ih ready₁ fun n hn => hc n (List.mem_cons_of_mem _ hn)).bind ready₁
      fun vs s₂ hle _ hvs => ?_
    refine .pure fun w hw => ?_
    obtain rfl | hw := List.mem_cons.1 hw
    · exact C.val_mono hle (C.val_operand hv)
    · exact hvs w hw

/-- The rule for initializers. -/
lemma runs_initializers {object} (fields : List (String × Node)) (ready : C.Ready scope s)
    (hc : ∀ field ∈ fields, C.Code .operand field.2) (ho : C.Val s.heap (.ref object)) :
    C.Runs chatty scope (initializers self scope object fields) s fun _ _ => True := by
  induction fields generalizing s with
  | nil => exact .pure trivial
  | cons field rest ih =>
    obtain ⟨name, init⟩ := field
    refine (hself .operand init scope s ready (hc _ List.mem_cons_self)).bind ready
      fun v s₁ h₁ ready₁ hv => ?_
    refine (Runs.register (.inr (C.val_mono h₁ ho)) (C.val_operand hv)).bind ready₁
      fun _ s₂ h₂ ready₂ _ => ?_
    exact ih ready₂ (fun field hf => hc field (List.mem_cons_of_mem _ hf))
      (C.val_mono h₂ (C.val_mono h₁ ho))

/-- The rule for the body of a function whose count of arguments is right. -/
lemma runs_enter {code captured receiver args} (ready : C.Ready scope s)
    (hk : C.Kind s.heap (.closure code captured)) (hr : C.Val s.heap receiver)
    (ha : ∀ v ∈ args, C.Val s.heap v) (hn : args.length = code.params.length) :
    C.Runs chatty scope (enter self code captured receiver args) s C.Val := by
  rw [enter]
  rw [if_pos hn]
  refine .observe_bind rfl ?_
  cases hp : s.heap.scope? captured with
  | none => exact .observe_error rfl (.misuse hk hp)
  | some parent =>
    -- the frame is typed before the body runs: it binds what the call was given
    have hv : ∀ b ∈ code.bindings receiver args, C.Val s.heap b.2 := by
      intro b hb
      obtain e | hb := Function.mem_bindings hb
      · exact e ▸ hr
      · exact ha _ hb
    have ready₁ := Path.frame_ready ready.typed hk hp hv rfl
    have hbody := (hself .statement code.body _ _ ready₁ (C.code_body hk)).bind ready₁
      fun v _ _ _ hy => Runs.pure (a := v.result) (C.val_result hy)
    exact ⟨.frame hk hp hv rfl hbody.path, hbody.post⟩

/-- The rule for an invocation by a node. -/
lemma runs_invocation {c : Invocation} (ready : C.Ready scope s) (hc : C.Calls s.heap c) :
    C.Runs chatty scope
      ((between (.invoke c) (.answer c) (invoke chatty self c.callee c.receiver c.args)).located
        c.site) s C.Val := by
  have hsame : ∀ {x y : Watched Value}, x s = y s →
      (between (.invoke c) (.answer c) x).located c.site s =
        (between (.invoke c) (.answer c) y).located c.site s := by
    intro x y e
    simp only [located, between, erase, Eval.located, e]
  obtain ⟨_, ⟨code, captured, hk⟩ | ⟨name, host, arity, hk⟩⟩ := Heap.function?_eq_some hc.function
  all_goals
    have hread : Eval.read (fun h => .ok (h.kind? c.callee)) s = .ok _ s :=
      congrArg (EStateM.Result.ok · s) hk
    have e : ∀ f : _ → Watched Value, (Watched.observe (Eval.read _) >>= f) s = f (some _) s :=
      observe_bind_run hread
  · by_cases hn : c.args.length = code.params.length
    · have hbody := runs_enter hself ready (ready.typed.kind hk) hc.receiver hc.args hn
      have hclosure : C.Runs chatty scope
          (between (.invoke c) (.answer c) (enter self code captured c.receiver c.args)) s C.Val :=
        ⟨.invoke hc hk hbody.path hbody.post, hbody.post⟩
      exact (hclosure.located c.site).of_eq (hsame (e _))
    · refine runs_refused hc (.closure hk hn) ((e _).trans ?_)
      simp only [enter, if_neg hn]
      rfl
  · cases arity with
    | none => exact (runs_host hc hk fun _ h => absurd h.symm (Option.some_ne_none _)).of_eq (hsame (e _))
    | some expected =>
      by_cases hn : (c.args.length : Int) = expected
      · refine (runs_host hc hk fun _ h => Option.some.inj h ▸ hn).of_eq (hsame ((e _).trans ?_))
        simp only [if_pos hn]
      · refine (runs_mismatch hc hk hn).of_eq (hsame ((e _).trans ?_))
        simp only [if_neg hn]

/-- The rule for a call of a value. -/
lemma runs_call {p site receiver callee args} (ready : C.Ready scope s)
    (hc : C.Code p site) (hk : site.kind = .call ∨ site.kind = .method)
    (hr : C.Val s.heap receiver) (hf : C.Val s.heap callee)
    (ha : ∀ n ∈ args, C.Code .operand n) :
    C.Runs chatty scope (call chatty self scope receiver callee args site) s C.Val := by
  rw [call]
  refine .observe_bind rfl ?_
  cases h : s.heap.function? callee with
  | none => exact .show_fail hc fun _ => hk
  | some f =>
    obtain ⟨rfl, _⟩ := Heap.function?_eq_some h
    refine (runs_arguments hself args ready ha).bind ready fun vs s₁ hle ready₁ hvs => ?_
    exact runs_invocation hself ready₁
      ⟨C.caller_of_code hc hk, C.val_mono hle hf, Heap.function?_mono hle h, C.val_mono hle hr, hvs⟩

/-- The rule for each kind of node. -/
lemma runs_node {p} {n : Node} (ready : C.Ready scope s) (hc : C.Code p n) :
    C.Runs chatty scope (node chatty self p n scope) s (C.Yield p) := by
  have hpart : ∀ q m, (q, m) ∈ n.parts p → C.Code q m := fun q m hm => C.code_part hc hm
  cases n with
  | block body line =>
    exact runs_instructions hself body ready fun n hn => hpart p n (List.mem_map_of_mem hn)
  | literal a line => exact .pure (C.yield_val C.val_atom)
  | call callee args line =>
    refine (hself .operand callee scope s ready (hpart _ _ List.mem_cons_self)).bind ready
      fun f s₁ _ ready₁ hf => ?_
    refine (runs_call hself ready₁ hc (.inl rfl) C.val_atom (C.val_operand hf) fun n hn => ?_).mono
      fun _ _ => C.yield_val
    exact hpart _ _ (List.mem_cons_of_mem _ (List.mem_map_of_mem hn))
  | var name line => exact (Runs.lookup ready (.inl rfl)).mono fun _ _ => C.yield_val
  | assign name value declares line =>
    refine (Runs.demandFree hc).bind ready fun _ s₁ _ ready₁ _ => ?_
    refine (hself .operand value scope s₁ ready₁ (hpart _ _ List.mem_cons_self)).bind ready₁
      fun v s₂ _ ready₂ hv => ?_
    refine (Runs.register (.inl rfl) (C.val_operand hv)).bind ready₂ fun _ _ _ _ _ => ?_
    exact .pure (C.yield_val C.val_atom)
  | function name params body line =>
    refine (Runs.new (by simp [Object.Kind.shape]) (C.kind_closure hc ready.scope) (C.val_closure ready.typed.fit)).bind
      ready fun f s₁ _ ready₁ hf => ?_
    refine (Runs.registerNamed name hf).bind ready₁ fun _ _ hle _ _ => ?_
    exact .pure (C.yield_val (C.val_mono hle hf))
  | ret value line =>
    refine (hself .operand value scope s ready (hpart _ _ List.mem_cons_self)).bind ready
      fun v s₁ _ _ hv => ?_
    exact .perform rfl .signal (C.yield_returning hc (C.val_operand hv))
  | cond test yes no line =>
    refine (hself .operand test scope s ready (hpart _ _ List.mem_cons_self)).bind ready
      fun v s₁ _ ready₁ _ => ?_
    have hyes : C.Code p yes := hpart _ _ (by simp [Node.parts])
    have hno : C.Code p no := hpart _ _ (by simp [Node.parts])
    -- anything but an integer is shown in a failure
    cases v with
    | atom a =>
      cases a with
      | int i =>
        refine hself p _ scope s₁ ready₁ ?_
        split
        · exact hyes
        · exact hno
      | str | bool | null | undefined => exact .show_fail hc fun _ => rfl
    | ref | returning => exact .show_fail hc fun _ => rfl
  | object fields line =>
    refine (Runs.new (by simp [Object.Kind.shape]) C.kind_plain (C.val_plain ready.typed.fit)).bind ready
      fun r s₁ _ ready₁ hr => ?_
    refine (runs_initializers hself fields ready₁ (fun field hf => ?_) hr).bind ready₁
      fun _ _ hle _ _ => ?_
    · exact hpart _ _ (List.mem_map_of_mem hf)
    · exact .pure (C.yield_val (C.val_mono hle hr))
  | field receiver name line =>
    refine (hself .operand receiver scope s ready (hpart _ _ List.mem_cons_self)).bind ready
      fun v s₁ _ ready₁ hv => ?_
    refine (Runs.asObject hc (fun _ => .inl rfl) (C.val_operand hv)).bind ready₁
      fun owner s₂ _ ready₂ ho => ?_
    exact (Runs.lookup ready₂ (.inr ho)).mono fun _ _ => C.yield_val
  | setField receiver name value line =>
    refine (hself .operand receiver scope s ready (hpart _ _ List.mem_cons_self)).bind ready
      fun v s₁ _ ready₁ hv => ?_
    refine (Runs.asObject hc (fun _ => .inr (.inl rfl)) (C.val_operand hv)).bind ready₁
      fun owner s₂ _ ready₂ ho => ?_
    have hvalue : C.Code .operand value := hpart _ _ (by simp [Node.parts])
    refine (hself .operand value scope s₂ ready₂ hvalue).bind ready₂ fun w s₃ hle ready₃ hw => ?_
    refine (Runs.register (.inr (C.val_mono hle ho)) (C.val_operand hw)).bind ready₃
      fun _ _ _ _ _ => ?_
    exact .pure (C.yield_val C.val_atom)
  | method receiver name args line =>
    refine (hself .operand receiver scope s ready (hpart _ _ List.mem_cons_self)).bind ready
      fun v s₁ _ ready₁ hv => ?_
    refine (Runs.asObject hc (fun _ => .inr (.inr rfl)) (C.val_operand hv)).bind ready₁
      fun owner s₂ _ ready₂ ho => ?_
    refine (Runs.lookup ready₂ (.inr ho)).bind ready₂ fun f s₃ hle ready₃ hf => ?_
    refine (runs_call hself ready₃ hc (.inr rfl) (C.val_mono hle ho) hf fun n hn => ?_).mono
      fun _ _ => C.yield_val
    exact hpart _ _ (List.mem_cons_of_mem _ (List.mem_map_of_mem hn))
  | script body => exact .observe_error rfl (.notExpression hc (by simp [Node.IsExpression, Node.kind]))
  | absent => exact .observe_error rfl (.notExpression hc (by simp [Node.IsExpression, Node.kind]))

end Rules

/-- Evaluations of code that the contract allows, from states that are ready, go along paths. -/
theorem evaluate (chatty : Bool) (depth : Nat) {p n} (ready : C.Ready scope s) (hc : C.Code p n) :
    C.Runs chatty scope (Watched.evaluate chatty depth p n scope) s (C.Yield p) := by
  induction depth generalizing p n scope s with
  | zero => exact .evaluate hc (.observe_error rfl .tooDeep)
  | succ depth ih =>
    exact .evaluate hc (runs_node (fun p n scope s ready hc => ih ready hc) ready hc)

/-- Invocations with what the contract allows, from states that are ready, go along paths. -/
theorem runs_invoke (chatty : Bool) (depth : Nat) {c : Invocation} (ready : C.Ready scope s)
    (hc : C.Calls s.heap c) :
    C.Runs chatty scope
      ((between (.invoke c) (.answer c)
        (invoke chatty (Watched.evaluate chatty depth) c.callee c.receiver c.args)).located c.site)
      s C.Val :=
  runs_invocation (fun _ _ _ _ ready hc => evaluate chatty depth ready hc) ready hc

/-- The evaluator goes from a state that is ready along a path to the state that it leaves. -/
theorem path_evaluate (chatty depth) {p n} (ready : C.Ready scope s) (hc : C.Code p n) :
    C.Path chatty scope s (Watched.evaluate chatty depth p n scope s).1
      (Eval.error? (Eval.outcome (Scriptlet.evaluate chatty depth n scope s)))
      (Eval.final (Scriptlet.evaluate chatty depth n scope s)) :=
  Watched.erase_evaluate chatty depth p n scope ▸ (evaluate chatty depth ready hc).path

end Scriptlet.Contract

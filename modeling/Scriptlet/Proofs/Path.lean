import Scriptlet.Proofs.Watch

/-!
# Paths

A run is described here by rules instead of a function. A contract fixes what the values, objects,
scopes, heaps and nodes of a run are like; a path is a row of moments in which every operation, every
evaluation and every call is as the contract allows. That the evaluator only takes paths is the
matter of `Scriptlet.Proofs.Path.Evaluate`; laws of runs are then inductions on paths, without a look
at the evaluator.

Main definitions and statements:
* `Contract`: predicates on values, kinds of objects, scopes, heaps, nodes and results, with the laws
  that the rules of evaluation need.
* `Contract.Path`: what happens between two states, and with which error it ends if it does.
* `Contract.Path.le`, `Contract.Path.typed`: along a path the heap grows and stays typed.
* `Contract.Path.permits`: every moment of a path has a typed heap, and its event is as the contract
  allows.
* `Contract.Path.get?_eq`: an object that no value refers to is changed by evaluations in it only.
-/

namespace Scriptlet

open Node (Position)

/-- Whether a cause can have a node for its site, calls that are refused apart. -/
def Failure.Cause.Fits : Failure.Cause → Node → Prop
  | .duplicate name, n => ∃ value line, n = .assign name value true line
  | .notCallable _, n => n.kind = .call ∨ n.kind = .method
  | .notObject _, n => n.kind = .field ∨ n.kind = .setField ∨ n.kind = .method
  | .notBoolean _, n => n.kind = .cond
  | _, _ => False

/-- The error of a call that is refused for the number of its arguments. A primitive that asks for a
number of them with too many digits cannot say so. -/
inductive Invocation.Refused (c : Invocation) (h : Heap) : Error → Prop where
  | closure {code captured} :
    h.kind? c.callee = some (.closure code captured) →
    c.args.length ≠ code.params.length →
    Refused c h
      (.failure ⟨.wrongCount code.title code.params.length c.args.length, some code.toNode⟩)
  | primitive {name host expected} :
    h.kind? c.callee = some (.primitive name host (some expected)) →
    (c.args.length : Int) ≠ expected →
    Refused c h (.failure ⟨.wrongCount name expected c.args.length, none⟩)
  | unwritten {name host expected} :
    h.kind? c.callee = some (.primitive name host (some expected)) →
    (c.args.length : Int) ≠ expected →
    Text.decimal? expected = none →
    Refused c h (.fault .longInteger)

/-- What the values, objects, scopes, heaps, nodes and results of a run are like. -/
structure Contract where
  /-- What is put to use: stored, passed to a call or answered by one. -/
  Val : Heap → Value → Prop
  /-- What makes an object. -/
  Kind : Heap → Object.Kind → Prop
  /-- Where nodes are evaluated. -/
  Scope : Heap → Ref → Prop
  /-- What a heap is like as a whole, beyond what is said of each object. -/
  Fit : Heap → Prop
  /-- What is evaluated. -/
  Code : Position → Node → Prop
  /-- What calls a function. -/
  Caller : Node → Prop
  /-- What evaluation yields at a position. -/
  Yield : Position → Heap → Value → Prop
  val_mono {h h' v} : h ≤ h' → Val h v → Val h' v
  kind_mono {h h' k} : h ≤ h' → Kind h k → Kind h' k
  scope_mono {h h' r} : h ≤ h' → Scope h r → Scope h' r
  fit_register {h r name v} : Fit h → Val h v → Fit (h.register r name v)
  fit_push {h object} :
    Fit h → Kind h object.kind → (∀ b ∈ object.fields, Val h b.2) → Fit (h.push object)
  val_atom {h a} : Val h (.atom a)
  val_plain {h} : Fit h → Val (h.push ⟨.plain, []⟩) (.ref h.next)
  val_closure {h code captured} :
    Fit h → Val (h.push ⟨.closure code captured, []⟩) (.ref h.next)
  kind_plain {h} : Kind h .plain
  kind_closure {h p name params body line scope} :
    Code p (.function name params body line) → Scope h scope →
    Kind h (.closure ⟨name, params, body, line⟩ (.ref scope))
  kind_frame {h code captured parent} :
    Kind h (.closure code captured) → h.scope? captured = some parent →
    Kind h (.environment parent)
  scope_frame {h parent fields} : Fit h → Scope (h.push ⟨.environment parent, fields⟩) h.next
  code_part {p n q m} : Code p n → (q, m) ∈ n.parts p → Code q m
  code_body {h code captured} : Kind h (.closure code captured) → Code .statement code.body
  caller_of_code {p n} : Code p n → n.kind = .call ∨ n.kind = .method → Caller n
  yield_val {p h v} : Val h v → Yield p h v
  yield_returning {p h signal v value line} :
    Code p (.ret value line) → Val h v → Yield p h (.returning signal v)
  val_operand {h v} : Yield .operand h v → Val h v
  val_result {h v} : Yield .statement h v → Val h v.result

namespace Contract

variable (C : Contract)

/-- A heap is typed when the kinds of its objects, the values in their fields and the whole of it are
as the contract says. -/
structure Typed (h : Heap) : Prop where
  objects : ∀ r o, h.get? r = some o → C.Kind h o.kind ∧ ∀ b ∈ o.fields, C.Val h b.2
  fit : C.Fit h

/-- A state is ready for an evaluation in a scope. -/
structure Ready (scope : Ref) (s : State) : Prop where
  typed : C.Typed s.heap
  scope : C.Scope s.heap scope

/-- What is true of a call when its function is invoked. -/
structure Calls (h : Heap) (c : Invocation) : Prop where
  site : C.Caller c.site
  callee : C.Val h (.ref c.callee)
  function : h.function? (.ref c.callee) = some c.callee
  receiver : C.Val h c.receiver
  args : ∀ v ∈ c.args, C.Val h v

/-- An operation that a rule takes in a scope, by the moment after it. -/
inductive Operates (scope : Ref) (s : State) : Moment → Prop where
  | look {r} :
    r = scope ∨ C.Val s.heap (.ref r) →
    Operates scope s ⟨.use r, s⟩
  | bind {r name value} :
    r = scope ∨ C.Val s.heap (.ref r) →
    C.Val s.heap value →
    Operates scope s ⟨.use r, { s with heap := s.heap.register r name value }⟩
  | make {object} :
    object.kind.shape ≠ .primitive →
    C.Kind s.heap object.kind →
    (∀ b ∈ object.fields, C.Val s.heap b.2) →
    Operates scope s ⟨.step, { s with heap := s.heap.push object }⟩
  | signal :
    Operates scope s ⟨.step, { s with signals := s.signals + 1 }⟩

/-- An error that a rule ends with, those of calls apart. -/
inductive Raises (s : State) : Error → Prop where
  | tooDeep : Raises s .tooDeep
  | operands {f} :
    f.OfOperands →
    Raises s (.fault f)
  | notExpression {p n} :
    C.Code p n →
    ¬ n.IsExpression →
    Raises s (.fault .notExpression)
  | misuse {code captured} :
    C.Kind s.heap (.closure code captured) →
    s.heap.scope? captured = none →
    Raises s (.fault .misuse)
  | failure {p n cause} :
    C.Code p n →
    cause.Fits n →
    Raises s (.failure ⟨cause, some n⟩)

/-- The moments between two states of an evaluation in a scope, and the error that cuts it short. An
invocation evaluates the body of a closure in a new frame, runs a routine of the host, or is
refused. -/
inductive Path (chatty : Bool) : Ref → State → List Moment → Option Error → State → Prop where
  | done {scope s} :
    Path chatty scope s [] none s
  | append {scope s l s₁ l' e s₂} :
    Path chatty scope s l none s₁ →
    Path chatty scope s₁ l' e s₂ →
    Path chatty scope s (l ++ l') e s₂
  | operate {scope s m} :
    C.Operates scope s m →
    Path chatty scope s [m] none m.state
  | raise {scope s e} :
    C.Raises s e →
    Path chatty scope s [] (some e) s
  | evaluate {scope s p n l o s'} :
    C.Code p n →
    Path chatty scope s l (Eval.error? o) s' →
    (∀ v, o = .ok v → C.Yield p s'.heap v) →
    Path chatty scope s (⟨.enter p n scope, s⟩ :: (l ++ [⟨.leave p n scope o, s'⟩]))
      (Eval.error? o) s'
  | invoke {scope s c code captured l o s'} :
    C.Calls s.heap c →
    s.heap.kind? c.callee = some (.closure code captured) →
    Path chatty scope s l (Eval.error? o) s' →
    (∀ v, o = .ok v → C.Val s'.heap v) →
    Path chatty scope s (⟨.invoke c, s⟩ :: (l ++ [⟨.answer c o, s'⟩])) (Eval.error? o) s'
  | frame {scope s code captured parent fields s₁ l e s'} :
    C.Kind s.heap (.closure code captured) →
    s.heap.scope? captured = some parent →
    (∀ b ∈ fields, C.Val s.heap b.2) →
    s₁ = { s with heap := s.heap.push ⟨.environment parent, fields⟩ } →
    Path chatty s.heap.next s₁ l e s' →
    Path chatty scope s
      (⟨.step, s₁⟩ :: ⟨.opened s.heap.next, s₁⟩ :: (l ++ [⟨.closed s.heap.next, s'⟩])) e s'
  | host {scope s c name host arity r} :
    C.Calls s.heap c →
    s.heap.kind? c.callee = some (.primitive name host arity) →
    (∀ expected, arity = some expected → (c.args.length : Int) = expected) →
    Eval.runHost chatty host c.args s = r →
    Path chatty scope s
      [⟨.invoke c, s⟩, ⟨.step, Eval.final r⟩, ⟨.answer c (Eval.outcome r), Eval.final r⟩]
      ((Eval.error? (Eval.outcome r)).map (Error.locate c.site)) (Eval.final r)
  | refuse {scope s c e} :
    C.Calls s.heap c →
    c.Refused s.heap e →
    Path chatty scope s [⟨.invoke c, s⟩, ⟨.answer c (.error e), s⟩] (some (e.locate c.site)) s

/-- What a contract says of the event of a moment. -/
def Permits (m : Moment) : Prop :=
  match m.event with
  | .enter p n scope => C.Code p n ∧ C.Scope m.state.heap scope
  | .leave p n scope o =>
    C.Code p n ∧ C.Scope m.state.heap scope ∧ ∀ v, o = .ok v → C.Yield p m.state.heap v
  | .invoke c => C.Calls m.state.heap c
  | .answer _ o => ∀ v, o = .ok v → C.Val m.state.heap v
  | .opened frame => C.Scope m.state.heap frame
  | .closed frame => C.Scope m.state.heap frame
  | .use r => C.Scope m.state.heap r ∨ C.Val m.state.heap (.ref r)
  | .step => True

variable {C : Contract}

/-- A new object whose parts are as the contract says leaves the heap typed. -/
lemma Typed.push {h : Heap} {object} (ht : C.Typed h) (hk : C.Kind h object.kind)
    (hv : ∀ b ∈ object.fields, C.Val h b.2) : C.Typed (h.push object) := by
  have hle := Heap.le_push h object
  refine ⟨?_, C.fit_push ht.fit hk hv⟩
  intro r o ho
  obtain ho | ⟨_, rfl⟩ := Heap.get?_push_cases ho
  · obtain ⟨hk, hv⟩ := ht.objects r o ho
    exact ⟨C.kind_mono hle hk, fun b hb => C.val_mono hle (hv b hb)⟩
  · exact ⟨C.kind_mono hle hk, fun b hb => C.val_mono hle (hv b hb)⟩

/-- Binding a value that is as the contract says leaves the heap typed. -/
lemma Typed.register {h : Heap} {r name value} (ht : C.Typed h) (hv : C.Val h value) :
    C.Typed (h.register r name value) := by
  have hle := Heap.le_register h r name value
  refine ⟨?_, C.fit_register ht.fit hv⟩
  intro s o ho
  -- only the object whose field is bound has other fields than before
  by_cases hrs : r = s
  · subst hrs
    rw [Heap.get?_register_self] at ho
    obtain ⟨old, hold, rfl⟩ := Option.map_eq_some_iff.1 ho
    obtain ⟨hk, hf⟩ := ht.objects r old hold
    refine ⟨C.kind_mono hle hk, fun b hb => C.val_mono hle ?_⟩
    obtain hb | e := Fields.mem_insert hb
    · exact hf b hb
    · exact e ▸ hv
  · rw [Heap.get?_register_of_ne hrs] at ho
    obtain ⟨hk, hf⟩ := ht.objects s o ho
    exact ⟨C.kind_mono hle hk, fun b hb => C.val_mono hle (hf b hb)⟩

/-- The kinds of objects in a typed heap are as the contract says. -/
lemma Typed.kind {h : Heap} {r k} (ht : C.Typed h) (hk : h.kind? r = some k) : C.Kind h k := by
  obtain ⟨o, ho, rfl⟩ := Option.map_eq_some_iff.1 hk
  exact (ht.objects r o ho).1

/-- What is looked up in a typed heap is as the contract says. -/
lemma Typed.lookup {h : Heap} (ht : C.Typed h) (r name) : C.Val h (h.lookup r name) := by
  obtain e | ⟨s, o, ho, b, hb, e⟩ := Heap.lookup_cases h r name
  · exact e ▸ C.val_atom
  · exact e ▸ (ht.objects s o ho).2 b hb

/-- What a routine of the host answers to a call is as the contract says. -/
lemma Calls.val_answer {s : State} {c : Invocation} {host r} (hc : C.Calls s.heap c)
    (ends : Host.Ends host c.args s r) :
    ∀ v, Eval.outcome r = .ok v → C.Val (Eval.final r).heap v := by
  intro v hv
  rw [ends.heap_eq]
  obtain ⟨a, rfl⟩ | hmem := ends.answer_cases hv
  · exact C.val_atom
  · exact hc.args v hmem

/-- Operations make the heap grow. -/
lemma Operates.le {scope s m} (op : C.Operates scope s m) : s.heap ≤ m.state.heap := by
  cases op with
  | look _ | signal => exact le_refl _
  | @bind r name value _ _ => exact Heap.le_register s.heap r name value
  | @make object _ _ _ => exact Heap.le_push s.heap object

/-- Operations keep the heap typed. -/
lemma Operates.typed {scope s m} (op : C.Operates scope s m) (ht : C.Typed s.heap) :
    C.Typed m.state.heap := by
  cases op with
  | look _ | signal => exact ht
  | bind _ hv => exact ht.register hv
  | make _ hk hv => exact ht.push hk hv

/-- Operations make no primitives. -/
lemma Operates.kind?_primitive {scope s m r name host arity} (op : C.Operates scope s m)
    (hk : m.state.heap.kind? r = some (.primitive name host arity)) :
    s.heap.kind? r = some (.primitive name host arity) := by
  cases op with
  | look _ | signal => exact hk
  | bind _ _ => rwa [Heap.kind?_register] at hk
  | make hshape _ _ => exact Heap.kind?_primitive_of_push hshape hk

/-- What holds at both ends and in between. -/
lemma forall_mem_between {P : Moment → Prop} {a b l} (ha : P a) (hl : ∀ m ∈ l, P m) (hb : P b) :
    ∀ m ∈ a :: (l ++ [b]), P m :=
  List.forall_mem_cons.2 ⟨ha, List.forall_mem_append.2 ⟨hl, List.forall_mem_singleton.2 hb⟩⟩

/-- What holds of a moment and all later ones, of those in between, and of these and a last one. -/
lemma pairwise_between {R : Moment → Moment → Prop} {a b l} (ha : ∀ m, R a m) (hl : l.Pairwise R)
    (hb : ∀ m ∈ l, R m b) : (a :: (l ++ [b])).Pairwise R := by
  refine List.pairwise_cons.2 ⟨fun m _ => ha m, ?_⟩
  refine List.pairwise_append.2 ⟨hl, List.pairwise_singleton _ _, fun m hm m' hm' => ?_⟩
  exact List.mem_singleton.1 hm' ▸ hb m hm

namespace Path

variable {chatty : Bool} {scope : Ref} {s s' : State} {l : List Moment} {e : Option Error}

/-- Making a frame is growth. -/
lemma frame_le {parent fields s₁}
    (hs : s₁ = { s with heap := s.heap.push ⟨.environment parent, fields⟩ }) :
    s.heap ≤ s₁.heap := by
  subst hs
  exact Heap.le_push s.heap _

/-- A new frame is ready for the evaluation of a body. -/
lemma frame_ready {code captured parent fields s₁} (ht : C.Typed s.heap)
    (hk : C.Kind s.heap (.closure code captured)) (hp : s.heap.scope? captured = some parent)
    (hv : ∀ b ∈ fields, C.Val s.heap b.2)
    (hs : s₁ = { s with heap := s.heap.push ⟨.environment parent, fields⟩ }) :
    C.Ready s.heap.next s₁ := by
  subst hs
  exact ⟨ht.push (C.kind_frame hk hp) hv, C.scope_frame ht.fit⟩

/-- A routine of the host leaves the heap as it is. -/
lemma host_heap_eq {host args r} (hr : Eval.runHost chatty host args s = r) :
    (Eval.final r).heap = s.heap :=
  (hr ▸ Eval.runHost_ends chatty host args s).heap_eq

/-- Along a path the heap grows. -/
lemma le (path : C.Path chatty scope s l e s') : s.heap ≤ s'.heap := by
  induction path with
  | done | raise _ | refuse _ _ => exact le_refl _
  | append _ _ ih₁ ih₂ => exact le_trans ih₁ ih₂
  | operate op => exact op.le
  | evaluate _ _ _ ih | invoke _ _ _ _ ih => exact ih
  | frame _ _ _ hs _ ih => exact le_trans (frame_le hs) ih
  | host _ _ _ hr => exact le_of_eq (host_heap_eq hr).symm

/-- Along a path the heap stays typed. -/
lemma typed (path : C.Path chatty scope s l e s') (ht : C.Typed s.heap) : C.Typed s'.heap := by
  induction path with
  | done | raise _ | refuse _ _ => exact ht
  | append _ _ ih₁ ih₂ => exact ih₂ (ih₁ ht)
  | operate op => exact op.typed ht
  | evaluate _ _ _ ih | invoke _ _ _ _ ih => exact ih ht
  | frame hk hp hv hs _ ih => exact ih (frame_ready ht hk hp hv hs).typed
  | host _ _ _ hr => exact host_heap_eq hr ▸ ht

/-- Along a path the state stays ready. -/
lemma ready (path : C.Path chatty scope s l e s') (ready : C.Ready scope s) : C.Ready scope s' :=
  ⟨path.typed ready.typed, C.scope_mono path.le ready.scope⟩

/-- Every moment of a path has a typed heap, and its event is as the contract allows. -/
theorem permits (path : C.Path chatty scope s l e s') (ready : C.Ready scope s) :
    ∀ m ∈ l, C.Typed m.state.heap ∧ C.Permits m := by
  induction path with
  | done | raise _ => exact List.forall_mem_nil _
  | append path₁ _ ih₁ ih₂ =>
    exact List.forall_mem_append.2 ⟨ih₁ ready, ih₂ (path₁.ready ready)⟩
  | operate op =>
    refine List.forall_mem_singleton.2 ⟨op.typed ready.typed, ?_⟩
    have hle := op.le
    cases op with
    | make _ _ _ | signal => exact trivial
    | look hr =>
      obtain rfl | hr := hr
      · exact .inl ready.scope
      · exact .inr hr
    | bind hr _ =>
      obtain rfl | hr := hr
      · exact .inl (C.scope_mono hle ready.scope)
      · exact .inr (C.val_mono hle hr)
  | evaluate hc path hy ih =>
    have ready' := path.ready ready
    exact forall_mem_between ⟨ready.typed, hc, ready.scope⟩ (ih ready)
      ⟨ready'.typed, hc, ready'.scope, hy⟩
  | invoke hc _ path hv ih =>
    exact forall_mem_between ⟨ready.typed, hc⟩ (ih ready) ⟨(path.ready ready).typed, hv⟩
  | frame hk hp hv hs path ih =>
    have ready₁ := frame_ready ready.typed hk hp hv hs
    have ready' := path.ready ready₁
    exact List.forall_mem_cons.2 ⟨⟨ready₁.typed, trivial⟩,
      forall_mem_between ⟨ready₁.typed, ready₁.scope⟩ (ih ready₁) ⟨ready'.typed, ready'.scope⟩⟩
  | @host _ s c _ host _ r hc _ _ hr =>
    have ends : host.Ends c.args s r := hr ▸ Eval.runHost_ends ..
    have ht : C.Typed (Eval.final r).heap := host_heap_eq hr ▸ ready.typed
    exact forall_mem_between (l := [_]) ⟨ready.typed, hc⟩
      (List.forall_mem_singleton.2 ⟨ht, trivial⟩) ⟨ht, hc.val_answer ends⟩
  | refuse hc _ =>
    exact forall_mem_between (l := []) ⟨ready.typed, hc⟩ (List.forall_mem_nil _)
      ⟨ready.typed, nofun⟩

/-- A failure at the end of a path has a site. -/
lemma isSome_site {f} (path : C.Path chatty scope s l e s') (he : e = some (.failure f)) :
    f.site.isSome := by
  induction path with
  | done | operate _ => cases he
  | append _ _ _ ih | evaluate _ _ _ ih | invoke _ _ _ _ ih | frame _ _ _ _ _ ih => exact ih he
  | raise hr =>
    cases he
    cases hr
    rfl
  | host _ _ _ _ =>
    obtain ⟨_, _, he⟩ := Option.map_eq_some_iff.1 he
    exact Error.isSome_site_of_locate he
  | refuse _ _ => exact Error.isSome_site_of_locate (Option.some.inj he)

/-- Along a path no primitives are made. -/
lemma kind?_primitive (path : C.Path chatty scope s l e s') {r name host arity}
    (hk : s'.heap.kind? r = some (.primitive name host arity)) :
    s.heap.kind? r = some (.primitive name host arity) := by
  induction path with
  | done | raise _ | refuse _ _ => exact hk
  | append _ _ ih₁ ih₂ => exact ih₁ (ih₂ hk)
  | operate op => exact op.kind?_primitive hk
  | evaluate _ _ _ ih | invoke _ _ _ _ ih => exact ih hk
  | frame _ _ _ hs _ ih =>
    subst hs
    exact Heap.kind?_primitive_of_push (by simp [Object.Kind.shape]) (ih hk)
  | host _ _ _ hr => exact host_heap_eq hr ▸ hk

/-- An object that no value refers to is changed by evaluations in it only. -/
lemma get?_eq {r : Ref} (path : C.Path chatty scope s l e s') (ready : C.Ready scope s)
    (hr : r.index < s.heap.size) (hne : r ≠ scope) (hv : ∀ h, s.heap ≤ h → ¬ C.Val h (.ref r)) :
    (∀ m ∈ l, m.state.heap.get? r = s.heap.get? r) ∧ s'.heap.get? r = s.heap.get? r := by
  induction path with
  | done | raise _ => exact ⟨List.forall_mem_nil _, rfl⟩
  | append path₁ _ ih₁ ih₂ =>
    obtain ⟨h₁, e₁⟩ := ih₁ ready hr hne hv
    have hle := path₁.le
    obtain ⟨h₂, e₂⟩ := ih₂ (path₁.ready ready) (Heap.lt_size_of_le hle hr) hne
      fun h hh => hv h (le_trans hle hh)
    refine ⟨List.forall_mem_append.2 ⟨h₁, ?_⟩, e₂.trans e₁⟩
    intro m hm
    exact (h₂ m hm).trans e₁
  | @operate scope s m op =>
    have key : m.state.heap.get? r = s.heap.get? r := by
      cases op with
      | look _ | signal => rfl
      | @bind t _ _ ht _ =>
        -- what is bound is a field of the scope or of something that a value refers to
        have htr : t ≠ r := by
          rintro rfl
          obtain e | ht := ht
          · exact hne e
          · exact hv _ (le_refl _) ht
        exact Heap.get?_register_of_ne htr ..
      | make _ _ _ => exact Heap.get?_push_of_lt hr _
    exact ⟨List.forall_mem_singleton.2 key, key⟩
  | evaluate _ _ _ ih | invoke _ _ _ _ ih =>
    obtain ⟨h, e⟩ := ih ready hr hne hv
    exact ⟨forall_mem_between rfl h e, e⟩
  | @frame scope s _ _ _ _ s₁ _ _ _ hk hp hf hs _ ih =>
    have hle := frame_le hs
    have ready₁ := frame_ready ready.typed hk hp hf hs
    have e₁ : s₁.heap.get? r = s.heap.get? r := hs ▸ Heap.get?_push_of_lt hr _
    have hne₁ : r ≠ s.heap.next := fun e => Nat.ne_of_lt hr (congrArg Ref.index e)
    obtain ⟨h, e⟩ := ih ready₁ (Heap.lt_size_of_le hle hr) hne₁
      fun h hh => hv h (le_trans hle hh)
    refine ⟨List.forall_mem_cons.2 ⟨e₁, forall_mem_between e₁ ?_ (e.trans e₁)⟩, e.trans e₁⟩
    intro m hm
    exact (h m hm).trans e₁
  | @host _ s _ _ _ _ r' _ _ _ hr' =>
    have e : (Eval.final r').heap.get? r = s.heap.get? r :=
      congrArg (Heap.get? · r) (host_heap_eq hr')
    exact ⟨forall_mem_between (l := [_]) rfl (List.forall_mem_singleton.2 e) e, e⟩
  | refuse _ _ => exact ⟨forall_mem_between (l := []) rfl (List.forall_mem_nil _) rfl, rfl⟩

end Path

end Contract

end Scriptlet

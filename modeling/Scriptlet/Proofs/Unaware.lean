import Scriptlet.Proofs.Heap.Hidden
import Scriptlet.Proofs.Path.Evaluate

/-!
# Evaluation that is unaware of objects

When objects are hidden in a heap, an evaluation in a scope that is not among them comes across no
reference to any of them, yields none, and leaves them hidden and as they are. This is a contract
like any other: what is put to use is clear of the hidden objects, and the heap hides them. Where
nothing is hidden it says that heaps stay regular, and values refer to what is there.

Main definitions and statements:
* `Contract.unaware`: the contract of what knows nothing of hidden objects.
* `Contract.permits_unaware`: at every moment of a path as it says, what is hidden is hidden, and no
  reference to it comes up.
* `Heap.Hides.runs_evaluate`, `Heap.Hides.runs_invoke`: evaluations and invocations take such paths.
-/

namespace Scriptlet

/-- The values that come up in an event. -/
def Event.values : Event → List Value
  | .enter _ _ scope => [.ref scope]
  | .leave _ _ scope o => .ref scope :: o.toOption.toList
  | .invoke c => .ref c.callee :: c.receiver :: c.args
  | .answer _ o => o.toOption.toList
  | .opened frame | .closed frame => [.ref frame]
  | .use r => [.ref r]
  | .step => []

/-- An object refers to what its kind refers to and to what is in its fields. -/
lemma Object.refers_cases {o : Object} {t} (ht : o.Refers t) :
    Object.Refers ⟨o.kind, []⟩ t ∨ ∃ b ∈ o.fields, b.2.ref? = some t := by
  cases ht with
  | field hb e => exact .inr ⟨_, hb, e⟩
  | parent e => exact .inl (.parent e)
  | captured e hv => exact .inl (.captured e hv)

/-- What an object refers to by its kind does not depend on its fields. -/
lemma Object.Refers.of_kind {o : Object} {t} (ht : Object.Refers ⟨o.kind, []⟩ t) : o.Refers t := by
  cases ht with
  | field hb _ => cases hb
  | parent e => exact .parent e
  | captured e hv => exact .captured e hv

namespace Contract

/-- The contract of what knows nothing of hidden objects. -/
def unaware (hidden : Ref → Prop) : Contract where
  Val h v := h.Clear hidden v
  Kind h k := ∀ t, Object.Refers ⟨k, []⟩ t → h.Clear hidden (.ref t)
  Scope h r := h.Clear hidden (.ref r)
  Fit h := h.Hides hidden
  Code _ _ := True
  Caller _ := True
  Yield _ h v := h.Clear hidden v
  val_mono hle hv := hv.mono hle
  kind_mono hle hk t ht := (hk t ht).mono hle
  scope_mono hle hr := hr.mono hle
  fit_register hides hv := hides.register hv
  fit_push hides hk hv := by
    refine hides.push fun t ht => ?_
    obtain ht | ⟨b, hb, e⟩ := Object.refers_cases ht
    · exact hk t ht
    · exact .of_ref (hv b hb t e).1 (hv b hb t e).2
  val_atom := .atom
  val_plain hides := hides.clear_next _
  val_closure hides := hides.clear_next _
  kind_plain t ht := absurd ht Object.not_refers_plain
  kind_closure _ hs t ht := by
    cases ht with
    | field hb _ => cases hb
    | parent e => cases e
    | captured e hv =>
      cases e
      cases hv
      exact hs
  kind_frame hk hp t ht := by
    cases ht with
    | field hb _ => cases hb
    | parent e =>
      cases e
      obtain ⟨rfl, _⟩ := Heap.scope?_eq_some hp
      exact hk t (.captured rfl rfl)
    | captured e _ => cases e
  scope_frame hides := hides.clear_next _
  code_part _ _ := trivial
  code_body _ := trivial
  caller_of_code _ _ := trivial
  yield_val hv := hv
  yield_returning _ hv := hv
  val_operand hv := hv
  val_result hv := hv.result

variable {hidden : Ref → Prop} {h : Heap} {m : Moment}

/-- A value that an event is allowed to carry as its outcome is clear. -/
lemma clear_of_mem_toList {o : Except Error Value} (ho : ∀ v, o = .ok v → h.Clear hidden v) :
    ∀ v ∈ o.toOption.toList, h.Clear hidden v := by
  intro v hv
  cases o with
  | error e => cases hv
  | ok w =>
    obtain rfl := List.mem_singleton.1 hv
    exact ho v rfl

/-- No reference to a hidden object comes up in an event that is allowed. -/
lemma Permits.clear (permits : (unaware hidden).Permits m) :
    ∀ v ∈ m.event.values, m.state.heap.Clear hidden v := by
  obtain ⟨event, s⟩ := m
  cases event with
  | enter p n scope => exact List.forall_mem_singleton.2 permits.2
  | leave p n scope o =>
    exact List.forall_mem_cons.2 ⟨permits.2.1, clear_of_mem_toList permits.2.2⟩
  | invoke c =>
    exact List.forall_mem_cons.2 ⟨permits.callee, List.forall_mem_cons.2
      ⟨permits.receiver, permits.args⟩⟩
  | answer c o => exact clear_of_mem_toList permits
  | opened frame | closed frame => exact List.forall_mem_singleton.2 permits
  | use r => exact List.forall_mem_singleton.2 (permits.elim id id)
  | step => exact List.forall_mem_nil _

/-- At every moment of a path what is hidden is hidden, and no reference to it comes up. -/
theorem permits_unaware {chatty scope s l e s'}
    (path : (unaware hidden).Path chatty scope s l e s') (ready : (unaware hidden).Ready scope s) :
    ∀ m ∈ l, m.state.heap.Hides hidden ∧ ∀ v ∈ m.event.values, m.state.heap.Clear hidden v :=
  fun m hm => (path.permits ready m hm).imp Typed.fit Permits.clear

/-- Along a path hidden objects stay as they are. -/
theorem Path.get?_hidden {chatty scope s l e s'}
    (path : (unaware hidden).Path chatty scope s l e s') (ready : (unaware hidden).Ready scope s)
    {r} (hr : hidden r) :
    (∀ m ∈ l, m.state.heap.get? r = s.heap.get? r) ∧ s'.heap.get? r = s.heap.get? r := by
  have hunclear : ∀ h : Heap, ¬ h.Clear hidden (.ref r) := fun h clear => (clear r rfl).2 hr
  refine path.get?_eq ready (ready.typed.fit.there r hr) ?_ fun h _ => hunclear h
  rintro rfl
  exact hunclear _ ready.scope

end Contract

namespace Heap.Hides

variable {hidden : Ref → Prop} {s : State}

/-- A heap that hides objects is typed as far as what knows nothing of them is concerned. -/
lemma typed {h : Heap} (hides : h.Hides hidden) : (Contract.unaware hidden).Typed h := by
  refine ⟨fun r o ho => ⟨fun t ht => ?_, fun b hb t e => ?_⟩, hides⟩
  · exact hides.clear_of_refers ho ht.of_kind
  · exact hides.clear_of_refers ho (.field hb e) t rfl

/-- An evaluation in a scope that is not hidden may start. -/
lemma ready {scope : Ref} (hides : s.heap.Hides hidden) (hscope : s.heap.Clear hidden (.ref scope)) :
    (Contract.unaware hidden).Ready scope s :=
  ⟨hides.typed, hscope⟩

/-- Evaluations in scopes that are not hidden take paths that know nothing of what is. -/
theorem runs_evaluate {scope : Ref} (hides : s.heap.Hides hidden)
    (hscope : s.heap.Clear hidden (.ref scope)) (chatty : Bool) (depth : Nat) (p : Node.Position)
    (n : Node) :
    (Contract.unaware hidden).Runs chatty scope (Watched.evaluate chatty depth p n scope) s
      fun h => h.Clear hidden :=
  Contract.evaluate chatty depth (hides.ready hscope) trivial

/-- Invocations of functions that are not hidden, with a receiver and arguments that are not, take
such paths as well, in any scope that is not hidden. -/
theorem runs_invoke {c : Invocation} (hides : s.heap.Hides hidden)
    (hf : s.heap.function? (.ref c.callee) = some c.callee)
    (hc : ∀ v ∈ (Event.invoke c).values, s.heap.Clear hidden v) (chatty : Bool) (depth : Nat) :
    (Contract.unaware hidden).Runs chatty c.callee
      ((Watched.between (.invoke c) (.answer c) (Watched.invoke chatty
        (Watched.evaluate chatty depth) c.callee c.receiver c.args)).located c.site) s
      fun h => h.Clear hidden := by
  obtain ⟨hcallee, hr, ha⟩ := (List.forall_mem_cons.1 hc).imp_right List.forall_mem_cons.1
  exact Contract.runs_invoke chatty depth (hides.ready hcallee) ⟨trivial, hcallee, hf, hr, ha⟩

end Heap.Hides

/-- A run starts with a regular heap. -/
lemma Script.regular_start (script : Script) (report : Report) :
    (script.start report).heap.Regular := by
  rw [script.heap_start]
  exact (Global.hides_prepare Heap.regular_empty.hides).regular

end Scriptlet

import Scriptlet.Proofs.Heap.Lookup
import Scriptlet.Proofs.Path.Start
import Scriptlet.Proofs.Reached

/-!
# Scopes

What is around an environment is an environment, at every moment of every evaluation and after every
step at the bench: a new environment gets its parent from the embedder or from the closure that is
called, and neither gets by with anything else. Environments are also younger than the ones around
them, so lookups come to an end wherever a state is reached (`State.Reached.lookup_nearest`).
-/

namespace Scriptlet

namespace Contract

/-- The contract that asks for nothing but an environment around every environment that is not
outermost. -/
def nested : Contract :=
  { any with
    Kind := fun h k => ∀ p, k = .environment (some p) → h.IsEnvironment p
    kind_mono := fun hle hk p e => (hk p e).mono hle
    fit_push := fun _ _ _ => trivial
    kind_plain := nofun
    kind_closure := fun _ _ => nofun
    kind_frame := by
      intro h code captured parent _ hscope p e
      cases e
      exact (Heap.scope?_eq_some hscope).2
    code_body := fun _ => trivial }

/-- What is around an object is an environment. -/
lemma isEnvironment_of_encloses {h : Heap} {p r} (ht : nested.Typed h) (hp : h.Encloses p r) :
    h.IsEnvironment p :=
  ht.kind (Heap.encloses_iff.1 hp) p rfl

/-- Where environments are around environments, evaluation may start in any scope. -/
lemma ready_nested {scope : Ref} {s : State} (ht : nested.Typed s.heap) : nested.Ready scope s :=
  ⟨ht, trivial⟩

/-- Objects that are made one by one have environments around them only. -/
lemma kind_nested_of_fresh {h : Heap} {object : Object} (fresh : object.Fresh h) :
    nested.Kind h object.kind := by
  cases fresh with
  | plain | closure | primitive => exact nofun
  | environment hscope | frame hscope =>
    intro p e
    cases e
    exact (Heap.scope?_eq_some hscope).2

/-- A global scope has nothing around it. -/
lemma nested_prepare {h : Heap} (ht : nested.Typed h) : nested.Typed (Global.prepare h) := by
  refine ⟨fun r o ho => ⟨?_, fun _ _ => trivial⟩, trivial⟩
  obtain ho | ⟨_, rfl⟩ | ⟨entry, _, rfl⟩ := Global.get?_prepare_cases ho
  · exact nested.kind_mono (Global.le_prepare h) (ht.objects r o ho).1
  · exact nofun
  · exact nofun

/-- Nothing is around anything before anything is made. -/
lemma nested_empty : nested.Typed .empty := by
  refine ⟨fun r o ho => ?_, trivial⟩
  cases ho

end Contract

/-- Whatever is done at the bench, environments are around environments. -/
lemma Heap.law_nested :
    Heap.Law fun h h' => Contract.nested.Typed h → Contract.nested.Typed h' where
  refl _ := id
  trans hR hR' := hR' ∘ hR
  register _ _ _ _ ht := ht.register trivial
  make _ _ fresh ht := ht.push (Contract.kind_nested_of_fresh fresh) fun _ _ => trivial
  global _ := Contract.nested_prepare

/-- Wherever a state is reached, environments are around environments. -/
theorem State.Reached.nested {s : State} (reached : s.Reached) :
    Contract.nested.Typed s.heap := by
  induction reached with
  | bench leads => exact Heap.law_nested.leads leads Contract.nested_empty
  | @start script report =>
    exact script.heap_start report ▸ Contract.nested_prepare Contract.nested_empty
  | @evaluation s chatty depth p n env m _ _ hm ht =>
    have ready : Contract.nested.Ready env s := Contract.ready_nested ht
    have path := Contract.path_evaluate (p := p) (n := n) chatty depth ready trivial
    exact (path.permits ready m hm).1
  | @invocation s chatty depth m c _ hf _ hm ht =>
    have ready : Contract.nested.Ready c.callee s := Contract.ready_nested ht
    have hc : Contract.nested.Calls s.heap c := ⟨trivial, trivial, hf, trivial, fun _ _ => trivial⟩
    have hruns := Contract.runs_invoke chatty depth ready hc
    exact (hruns.path.permits ready m hm).1

/-- Wherever a state is reached, environments lie in one another and only in one another, a lookup
from any object ends, and it yields the nearest binding. When a name is bound in an environment, a
lookup of this name that gets there finds what is bound, and all others find what they found
before. -/
theorem State.Reached.lookup_nearest {s : State} (reached : s.Reached) :
    (∀ p r, s.heap.Encloses p r → s.heap.IsEnvironment p) ∧
    (∀ r, ¬Relation.TransGen s.heap.Encloses r r) ∧
    (∀ r name v, s.heap.Finds name (some r) v ↔ s.heap.lookup r name = v) ∧
    (∀ r name v, s.heap.lookup r name = v ↔
      (∃ t, s.heap.Meets name r t ∧ s.heap.own? t name = some v) ∨
        v = .undefined ∧
          ∀ t, Relation.ReflTransGen s.heap.Encloses t r → s.heap.own? t name = none) ∧
    ∀ r name v, s.heap.IsEnvironment r →
      (s.heap.register r name v).lookup r name = v ∧
      (∀ t, s.heap.Meets name t r → (s.heap.register r name v).lookup t name = v) ∧
      ∀ t other, (s.heap.register r name v).lookup t other ≠ s.heap.lookup t other →
        other = name ∧ s.heap.Meets name t r := by
  have layered := reached.regular.layered
  refine ⟨fun p r => Contract.isEnvironment_of_encloses reached.nested, layered.not_transGen,
    fun r name v => layered.finds_iff, fun r name v => layered.lookup_eq_iff,
    fun r name v henv => ?_⟩
  have hmeets : ∀ t, s.heap.Meets name t r → (s.heap.register r name v).lookup t name = v :=
    fun t => layered.lookup_register_of_meets henv.lt_size
  refine ⟨hmeets r .here, hmeets, fun t other hne => ?_⟩
  by_contra hother
  exact hne (layered.lookup_register_of_not_meets hother)

namespace Bench

/-- A bench with three environments in one another. The outermost one binds a name to a number, and
the one in the middle binds it to the undefined value. -/
def nesting : Bench :=
  ((((((empty.step 1 (.environment none)).bench.step 1 (.environment (some 0))).bench.step 1
    (.environment (some 1))).bench.step 1 (.value (.int 5))).bench.step 1
      (.register 0 "x" 3)).bench.step 1 (.register 1 "x" 4)).bench

/-- It can be set up at the bench. -/
lemma leads_nesting : empty.Leads nesting :=
  .tail (.tail (.tail (.tail (.tail (.single ⟨1, .environment none, rfl⟩)
    ⟨1, .environment (some 0), rfl⟩) ⟨1, .environment (some 1), rfl⟩) ⟨1, .value (.int 5), rfl⟩)
      ⟨1, .register 0 "x" 3, rfl⟩) ⟨1, .register 1 "x" 4, rfl⟩

end Bench

/-- A binding to the undefined value hides another one farther out, also when that one changes, and a
change of it is seen from farther in. -/
theorem State.Reached.lookup_nearest_undefined :
    Bench.nesting.heap.own? ⟨0⟩ "x" = some (.atom (.int 5)) ∧
    Bench.nesting.heap.lookup ⟨2⟩ "x" = .undefined ∧
    (Bench.nesting.heap.register ⟨0⟩ "x" (.atom .null)).lookup ⟨2⟩ "x" = .undefined ∧
    (Bench.nesting.heap.register ⟨1⟩ "x" (.atom .null)).lookup ⟨2⟩ "x" = .atom .null := by
  have reached : State.Reached ⟨Bench.nesting.heap, Bench.nesting.signals, [], ""⟩ :=
    .bench Bench.leads_nesting
  obtain ⟨_, _, _, hnearest, hregister⟩ := lookup_nearest reached
  have meets : Bench.nesting.heap.Meets "x" ⟨2⟩ ⟨1⟩ := .around rfl rfl .here
  have hundefined : Bench.nesting.heap.lookup ⟨2⟩ "x" = .undefined :=
    (hnearest ⟨2⟩ "x" .undefined).2 (.inl ⟨⟨1⟩, meets, rfl⟩)
  refine ⟨rfl, hundefined, ?_, (hregister ⟨1⟩ "x" (.atom .null) ⟨some ⟨0⟩, rfl⟩).2.1 ⟨2⟩ meets⟩
  -- the lookup stops before it gets to the outermost environment
  have hother : ¬Bench.nesting.heap.Meets "x" ⟨2⟩ ⟨0⟩ := by
    intro h
    cases h with
    | around _ hp h =>
      obtain rfl : (⟨1⟩ : Ref) = _ := Option.some.inj hp
      cases h with
      | around hnone => cases hnone
  by_contra hne
  exact hother ((hregister ⟨0⟩ "x" (.atom .null) ⟨none, rfl⟩).2.2 ⟨2⟩ "x" (hundefined ▸ hne)).2

end Scriptlet

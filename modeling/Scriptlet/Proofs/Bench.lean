import Mathlib.Logic.Relation
import Scriptlet.Bench
import Scriptlet.Proofs.Heap.Keeps
import Scriptlet.Proofs.Law

/-!
# The bench and its heap

An embedder leads from one bench to another step by step, with evaluations and invocations of its
choice, and a step that ends in an error leaves what it has done so far. Whatever relation between
heaps is kept when fields are bound, when objects are made and when a global scope is made is hence
kept from any bench to all later ones (`Heap.Law.leads`).

So the structure of objects is fixed from the moment when they are made: they are never lost, their
kinds stay, and the names of their fields stay in their order, without repetition
(`Bench.structure_kept`).
-/

namespace Scriptlet

/-- The objects that are made one by one, by evaluation or at the bench. -/
inductive Object.Fresh (h : Heap) : Object → Prop where
  | plain : Fresh h ⟨.plain, []⟩
  | closure {code captured} : Fresh h ⟨.closure code captured, []⟩
  | primitive {name host arity} : Fresh h ⟨.primitive name host arity, []⟩
  | environment {scope parent} :
    h.scope? scope = some parent →
    Fresh h ⟨.environment parent, []⟩
  | frame {scope parent receiver args} {code : Function} :
    h.scope? scope = some parent →
    Fresh h ⟨.environment parent, code.bindings receiver args⟩

/-- A relation between an earlier and a later heap that is kept by all that is done to heaps. -/
structure Heap.Law (R : Heap → Heap → Prop) : Prop where
  refl : ∀ h, R h h
  trans : ∀ {h h' h''}, R h h' → R h' h'' → R h h''
  register : ∀ (h : Heap) r name value, R h (h.register r name value)
  make : ∀ (h : Heap) object, object.Fresh h → R h (h.push object)
  global : ∀ h, R h (Global.prepare h)

/-- A law of heaps is a law of states. -/
lemma Heap.Law.state {R : Heap → Heap → Prop} (law : Heap.Law R) :
    State.Law fun s t => R s.heap t.heap where
  refl s := law.refl s.heap
  trans := law.trans
  register s := law.register s.heap
  plain s := law.make s.heap _ .plain
  closure s _ _ := law.make s.heap _ .closure
  frame s _ _ _ _ _ hparent := law.make s.heap _ (.frame hparent)
  signal s := law.refl s.heap
  write s _ := law.refl s.heap
  chat s _ := law.refl s.heap

namespace Bench

/-- A bench and another one a step later. The limit on the depth may be another in each step. -/
def Next (b b' : Bench) : Prop :=
  ∃ depth step, b' = (b.step depth step).bench

/-- A bench and another one after any number of steps. -/
def Leads : Bench → Bench → Prop :=
  Relation.ReflTransGen Next

variable {R : Heap → Heap → Prop} (law : Heap.Law R)

/-- The parent for a new environment is a scope. -/
lemma scope?_of_parentAt {b : Bench} {i : Option Nat} {s t : State} {parent}
    (h : b.parentAt i s = .ok parent t) : t = s ∧ ∃ scope, s.heap.scope? scope = some parent := by
  cases i with
  | none =>
    cases h
    exact ⟨rfl, .atom .null, rfl⟩
  | some i =>
    simp only [parentAt, Eval.read] at h
    cases hscope : s.heap.scope? (b.slot i) with
    | none =>
      rw [hscope] at h
      cases h
    | some p =>
      rw [hscope] at h
      cases h
      exact ⟨rfl, b.slot i, hscope⟩

include law

/-- A step at the bench keeps a law of heaps, whether it has a result or ends in an error. -/
lemma keeps_perform (depth : Nat) (b : Bench) (step : Step) (s : State) :
    R s.heap (Eval.final (b.perform depth step s)).heap := by
  have hread : ∀ {α : Type} (f : Heap → Except Fault α) (t : State),
      Eval.Cut (fun s t => R s.heap t.heap) (Eval.read f) (Eval.read f) t :=
    fun f _ => .read law.state f
  have hmake : ∀ (t : State) object, object.Fresh t.heap →
      Eval.Cut (fun s t => R s.heap t.heap) (do return .ref (← Eval.new object))
        (do return .ref (← Eval.new object) : Eval Value) t := by
    intro t object hobject
    have hnew := law.make t.heap object hobject
    exact .bind law.state (.self hnew) fun _ _ _ => .pure law.state _
  suffices h : Eval.Cut (fun s t => R s.heap t.heap) (b.perform depth step) (b.perform depth step) s
    from h.keeps
  cases step with
  | value a => exact .pure law.state _
  | environment parent =>
    have hparent : Eval.Cut (fun s t => R s.heap t.heap) (b.parentAt parent) (b.parentAt parent) s :=
      hread _ s
    refine .bind law.state hparent fun parent t h => ?_
    obtain ⟨rfl, scope, hscope⟩ := scope?_of_parentAt h
    exact hmake t _ (.environment hscope)
  | object => exact hmake s _ .plain
  | closure code captured => exact hmake s _ .closure
  | primitive name host arity => exact hmake s _ .primitive
  | global => exact .self (law.global s.heap)
  | register object name value =>
    refine .bind law.state (hread _ s) fun r t _ => ?_
    exact .bind law.state (.register law.state) fun _ _ _ => .pure law.state _
  | lookup object name => exact .bind law.state (hread _ s) fun r t _ => .lookup law.state
  | invoke callee receiver args =>
    refine .bind law.state (hread _ s) fun r t _ => ?_
    exact .self (law.state.invoke false depth r _ _ t)
  | evaluate n env =>
    refine .bind law.state (hread _ s) fun r t _ => ?_
    exact .self (law.state.evaluate false depth n r t)
  | text i | quoted i => exact .bind law.state (hread _ s) fun _ _ _ => .pure law.state _
  | same i j => exact .pure law.state _
  | setAttribute => exact .fault law.state

/-- One step of a bench relates the heaps as mutations of the heap do. -/
lemma Next.keeps {b b' : Bench} (next : b.Next b') : R b.heap b'.heap := by
  obtain ⟨depth, step, rfl⟩ := next
  have h := keeps_perform law depth b step ⟨b.heap, b.signals, [], ""⟩
  rw [Bench.step]
  split <;> (rename_i hp; rw [hp] at h; exact h)

end Bench

/-- A law of heaps is kept from a bench to all later ones. -/
theorem Heap.Law.leads {R : Heap → Heap → Prop} (law : Heap.Law R) {b b' : Bench}
    (leads : b.Leads b') : R b.heap b'.heap := by
  induction leads with
  | refl => exact law.refl _
  | tail _ next ih => exact law.trans ih (next.keeps law)

/-- No name occurs twice in an object that is just made. -/
lemma Object.Fresh.nodup_names {h : Heap} {object : Object} (fresh : object.Fresh h) :
    object.fields.names.Nodup := by
  cases fresh with
  | plain | closure | primitive | environment => exact List.nodup_nil
  | frame => exact Function.nodup_names_bindings _ _ _

/-- Objects stay what they are, and no name comes to occur twice in one. -/
lemma Heap.law_structure : Heap.Law fun h h' => h.Keeps h' ∧ (h.Distinct → h'.Distinct) where
  refl h := ⟨.refl h, id⟩
  trans hR hR' := ⟨hR.1.trans hR'.1, hR'.2 ∘ hR.2⟩
  register h r name value := ⟨h.keeps_register r name value, (·.register r name value)⟩
  make h object fresh := ⟨h.keeps_push object, (·.push fresh.nodup_names)⟩
  global h := ⟨Global.keeps_prepare h, Global.distinct_prepare⟩

namespace Bench

/-- At every bench that an empty one leads to, no object has two fields of one name; and at every
later bench each of its objects is still there, of the same kind, with the same fields first. -/
theorem structure_kept {b b' : Bench} (leads : empty.Leads b) (leads' : b.Leads b') :
    b.heap.Distinct ∧ b.heap.Keeps b'.heap := by
  have hempty : empty.heap.Distinct := by
    intro r o ho
    cases ho
  exact ⟨(Heap.law_structure.leads leads).2 hempty, (Heap.law_structure.leads leads').1⟩

/-- The names of the fields of an object, none for what is no object. -/
def namesAt (b : Bench) (r : Ref) : List String :=
  (b.heap.get? r).elim [] fun o => o.fields.names

/-- A bench with an environment that binds two names, the second one by an evaluation. -/
def workshop : Bench :=
  (((empty.step 3 (.environment none)).bench.step 3 (.register 0 "a" 0)).bench.step 3
    (.evaluate (.assign "b" (.literal (.int 1) 1) true 1) 0)).bench

/-- Instructions that bind a name anew and then a new one, and break off at the third. -/
def breakage : Node :=
  .block
    [.assign "a" (.literal (.int 2) 1) false 1, .assign "c" (.literal (.int 3) 2) true 2,
      .field (.var "nobody" 3) "x" 3, .assign "d" (.literal (.int 4) 4) true 4] 1

/-- An evaluation that breaks off leaves the two names of the environment as they are and puts the
one it has bound after them. -/
theorem structure_kept_breakage :
    empty.Leads workshop ∧
      workshop.Leads (workshop.step 3 (.evaluate breakage 0)).bench ∧
      (workshop.step 3 (.evaluate breakage 0)).result =
        .error (.failure ⟨.notObject "undefined", some (.field (.var "nobody" 3) "x" 3)⟩) ∧
      workshop.namesAt ⟨0⟩ = ["a", "b"] ∧
      (workshop.step 3 (.evaluate breakage 0)).bench.namesAt ⟨0⟩ = ["a", "b", "c"] ∧
      workshop.heap.Distinct ∧
      workshop.heap.Keeps (workshop.step 3 (.evaluate breakage 0)).bench.heap := by
  have hmade : empty.Leads workshop :=
    .tail (.tail (.single ⟨3, .environment none, rfl⟩) ⟨3, .register 0 "a" 0, rfl⟩)
      ⟨3, .evaluate (.assign "b" (.literal (.int 1) 1) true 1) 0, rfl⟩
  have hbroken : workshop.Leads (workshop.step 3 (.evaluate breakage 0)).bench :=
    .single ⟨3, .evaluate breakage 0, rfl⟩
  obtain ⟨hdistinct, hkeeps⟩ := structure_kept hmade hbroken
  exact ⟨hmade, hbroken, rfl, rfl, rfl, hdistinct, hkeeps⟩

end Bench

end Scriptlet

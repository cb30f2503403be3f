import Scriptlet.Proofs.Bench
import Scriptlet.Proofs.Unaware

/-!
# States that are reached

A state is reached when a bench that an empty one leads to is in it, when a script starts in it, or
when an evaluation or an invocation passes through it that starts from a state that is reached, with
values that are there. Every state that is reached has a regular heap (`State.Reached.regular`).
-/

namespace Scriptlet

/-- A bench with a regular heap, in whose slots are values that are there. -/
structure Bench.Tidy (b : Bench) : Prop where
  regular : b.heap.Regular
  live : ∀ v ∈ b.slots, b.heap.Live v

/-- The states that come up at the bench, at the start of a script, and on the way from there. -/
inductive State.Reached : State → Prop where
  | bench {b : Bench} {writes chatter} :
    Bench.empty.Leads b →
    Reached ⟨b.heap, b.signals, writes, chatter⟩
  | start {script : Script} {report} :
    Reached (script.start report)
  | evaluation {s chatty depth p n env m} :
    Reached s →
    env.index < s.heap.size →
    m ∈ (Watched.evaluate chatty depth p n env s).1 →
    Reached m.state
  | invocation {s chatty depth m} {c : Invocation} :
    Reached s →
    s.heap.function? (.ref c.callee) = some c.callee →
    (∀ v ∈ c.receiver :: c.args, s.heap.Live v) →
    m ∈ (Watched.between (.invoke c) (.answer c)
      (Watched.invoke chatty (Watched.evaluate chatty depth) c.callee c.receiver c.args) s).1 →
    Reached m.state

namespace Eval

variable {α β : Type} {s : State}

/-- A computation that leaves the heap regular, and yields something as stated if anything. -/
structure Tidy (x : Eval α) (s : State) (post : Heap → α → Prop) : Prop where
  le : s.heap ≤ (final (x s)).heap
  regular : (final (x s)).heap.Regular
  post : ∀ a, outcome (x s) = .ok a → post (final (x s)).heap a

namespace Tidy

variable {post : Heap → α → Prop} {post' : Heap → β → Prop}

/-- A computation that yields a value as stated, in a heap that has grown and is regular, is tidy.
-/
lemma ok {x : Eval α} {a t} (hx : x s = .ok a t) (hle : s.heap ≤ t.heap)
    (regular : t.heap.Regular) (ha : post t.heap a) : Tidy x s post := by
  refine ⟨?_, ?_, fun b hb => ?_⟩
  · rw [hx]
    exact hle
  · rw [hx]
    exact regular
  · rw [hx] at hb ⊢
    cases hb
    exact ha

/-- An error that leaves the state as it is is tidy. -/
lemma error {x : Eval α} {e} (regular : s.heap.Regular) (hx : x s = .error e s) :
    Tidy x s post := by
  refine ⟨?_, ?_, fun a ha => ?_⟩
  · rw [hx]
    exact le_refl _
  · rw [hx]
    exact regular
  · rw [hx] at ha
    cases ha

/-- A value as stated, by itself, is tidy. -/
lemma pure {a} (regular : s.heap.Regular) (ha : post s.heap a) : Tidy (pure a) s post :=
  .ok rfl (le_refl _) regular ha

/-- A tidy computation may go on with tidy ones. -/
lemma bind {x : Eval α} {f : α → Eval β} (hx : Tidy x s post)
    (hf : ∀ a t, s.heap ≤ t.heap → t.heap.Regular → post t.heap a → Tidy (f a) t post') :
    Tidy (x >>= f) s post' := by
  obtain ⟨hle, regular, ha⟩ := hx
  cases h : x s with
  | ok a t =>
    rw [h] at hle regular ha
    have ht := hf a t hle regular (ha a rfl)
    have e := bind_run_of_ok h f
    exact ⟨le_trans hle (e ▸ ht.le), e ▸ ht.regular, e ▸ ht.post⟩
  | error err t =>
    rw [h] at hle regular
    have e := bind_run_of_error h f
    refine ⟨e ▸ hle, e ▸ regular, fun b hb => ?_⟩
    rw [e] at hb
    cases hb

/-- A tidy computation yields what follows from what it is stated to yield. -/
lemma mono {x : Eval α} {post' : Heap → α → Prop} (hx : Tidy x s post)
    (h : ∀ h a, post h a → post' h a) : Tidy x s post' :=
  ⟨hx.le, hx.regular, fun a ha => h _ a (hx.post a ha)⟩

/-- Reading the heap is tidy. -/
lemma read {f : Heap → Except Fault α} (regular : s.heap.Regular) :
    Tidy (read f) s fun h a => h = s.heap ∧ f s.heap = .ok a := by
  have hfinal : final (Eval.read f s) = s := by
    rw [Eval.read]
    split <;> rfl
  have hheap := congrArg State.heap hfinal
  refine ⟨le_of_eq hheap.symm, hheap ▸ regular, fun a ha => ⟨hheap, ?_⟩⟩
  rw [Eval.read] at ha
  split at ha
  · cases ha
    assumption
  · cases ha

/-- Making an object that refers to what is there is tidy. -/
lemma new {object : Object} (regular : s.heap.Regular)
    (hobject : ∀ t, object.Refers t → t.index < s.heap.size) :
    Tidy (new object) s fun h r => h.Live (.ref r) := by
  have hides := regular.hides.push fun t ht => Heap.clear_iff_live.2 (.of_lt (hobject t ht))
  exact .ok rfl (Heap.le_push s.heap object) hides.regular .next

/-- Binding a field to what is there is tidy. -/
lemma register {r name v} (regular : s.heap.Regular) (live : s.heap.Live v) :
    Tidy (register r name v) s fun _ _ => True := by
  have hides : (s.heap.register r name v).Hides fun _ => False :=
    regular.hides.register (Heap.clear_iff_live.2 live)
  exact .ok rfl (Heap.le_register s.heap r name v) hides.regular trivial

/-- Looking up a name is tidy, and yields what is there. -/
lemma lookup {r name} (regular : s.heap.Regular) : Tidy (lookup r name) s fun h => h.Live :=
  .ok rfl (le_refl _) regular (Heap.clear_iff_live.1 (regular.hides.clear_lookup r name))

/-- Making a global scope is tidy. -/
lemma global (regular : s.heap.Regular) :
    Tidy (fun s => .ok (.ref s.heap.next) { s with heap := Global.prepare s.heap }) s
      fun h => h.Live := by
  have hlt : s.heap.size < (Global.prepare s.heap).size := by
    rw [Global.size_prepare]
    exact Nat.lt_add_of_pos_right (Nat.succ_pos _)
  exact .ok rfl (Global.le_prepare s.heap) (Global.hides_prepare regular.hides).regular (.of_lt hlt)

/-- A watched computation that comes across nothing but what is there leaves the heap regular. -/
lemma of_runs {chatty scope} {x : Watched Value} (regular : s.heap.Regular)
    (hx : (Contract.unaware fun _ => False).Runs chatty scope x s fun h => h.Clear fun _ => False) :
    Tidy x.erase s fun h => h.Live :=
  ⟨hx.path.le, (hx.path.typed regular.hides.typed).fit.regular,
    fun v hv => Heap.clear_iff_live.1 (hx.post v hv)⟩

/-- A computation is as good as one that gives a site to its failures. -/
lemma of_located {x : Eval Value} {site : Node} {post : Heap → Value → Prop}
    (hx : Tidy (x.located site) s post) : Tidy x s post := by
  obtain ⟨hle, regular, ha⟩ := hx
  rw [final_located] at hle regular ha
  exact ⟨hle, regular, fun v hv => ha v (outcome_located_eq_ok_iff.2 hv)⟩

/-- Evaluations leave the heap regular, and yield what is there. -/
lemma evaluate (chatty depth n) {env : Ref} (regular : s.heap.Regular)
    (henv : env.index < s.heap.size) :
    Tidy (Scriptlet.evaluate chatty depth n env) s fun h => h.Live := by
  rw [← Watched.erase_evaluate chatty depth .statement n env]
  exact of_runs regular
    (regular.hides.runs_evaluate (Heap.clear_iff_live.2 (.of_lt henv)) chatty depth .statement n)

/-- Invoking a function on what is there is tidy, and yields what is there. -/
lemma invoke (chatty depth) {r : Ref} {receiver args} (regular : s.heap.Regular)
    (hr : r.index < s.heap.size) (live : ∀ v ∈ receiver :: args, s.heap.Live v) :
    Tidy (Eval.invoke chatty (Scriptlet.evaluate chatty depth) r receiver args) s
      fun h => h.Live := by
  by_cases hf : s.heap.function? (.ref r) = some r
  · have hc : ∀ v ∈ (Event.invoke ⟨.absent, r, receiver, args⟩).values,
        s.heap.Clear (fun _ => False) v :=
      List.forall_mem_cons.2 ⟨Heap.clear_iff_live.2 (.of_lt hr),
        fun v hv => Heap.clear_iff_live.2 (live v hv)⟩
    have tidy := of_runs regular (regular.hides.runs_invoke hf hc chatty depth)
    rw [Watched.erase_located, Watched.erase_between,
      Watched.erase_invoke (Watched.erase_evaluate chatty depth)] at tidy
    exact tidy.of_located
  · -- what is no function is shown in a failure
    refine (read regular).bind fun k t _ regular' ⟨_, hk⟩ => ?_
    have hshown : Tidy (do
        let shown ← Eval.read fun h => h.objectText r
        Eval.fail (.notCallable shown) none : Eval Value) t fun h => h.Live :=
      (read regular').bind fun _ _ _ regular'' _ => .error regular'' rfl
    cases k with
    | none => exact hshown
    | some k =>
      cases k with
      | plain | environment => exact hshown
      | closure | primitive =>
        refine absurd ?_ hf
        simp only [Heap.function?, Except.ok.inj hk]

end Tidy

end Eval

/-- A function is there. -/
lemma Heap.lt_size_of_function? {h : Heap} {f : Ref} (hf : h.function? (.ref f) = some f) :
    f.index < h.size := by
  obtain ⟨_, ⟨_, _, hk⟩ | ⟨_, _, _, hk⟩⟩ := function?_eq_some hf
  · exact lt_size_of_kind? hk
  · exact lt_size_of_kind? hk

namespace Bench

variable {b : Bench}

/-- What is in a slot of a tidy bench is there. -/
lemma Tidy.live_slot (tidy : b.Tidy) (i : Nat) : b.heap.Live (b.slot i) := by
  rw [slot, Array.getD]
  split
  · exact tidy.live _ (Array.getElem_mem _)
  · exact .atom

/-- The object that a slot stands for is there. -/
lemma tidy_objectAt {i} {s : State} (regular : s.heap.Regular) :
    Eval.Tidy (b.objectAt i) s fun h r => r.index < h.size := by
  refine (Eval.Tidy.read regular).mono ?_
  rintro h r ⟨rfl, hr⟩
  split at hr
  · cases hr
    exact (Heap.object?_eq_some ‹_›).2
  · cases hr

/-- The scope that a slot stands for is there, if there is one. -/
lemma tidy_parentAt {i} {s : State} (regular : s.heap.Regular) :
    Eval.Tidy (b.parentAt i) s fun h parent => ∀ r, parent = some r → r.index < h.size := by
  refine (Eval.Tidy.read regular).mono ?_
  rintro h parent ⟨rfl, hparent⟩
  split at hparent
  · cases hparent
    exact nofun
  · split at hparent
    · cases hparent
      rintro r rfl
      exact (Heap.scope?_eq_some ‹_›).2.lt_size
    · cases hparent

/-- What a step at the bench does leaves the heap regular, and yields what is there. -/
lemma Tidy.perform (tidy : b.Tidy) (depth : Nat) (step : Step) :
    Eval.Tidy (b.perform depth step) ⟨b.heap, b.signals, [], ""⟩ fun h => h.Live := by
  have regular := tidy.regular
  have hnew : ∀ {object : Object} {t : State}, t.heap.Regular →
      (∀ r, object.Refers r → r.index < t.heap.size) →
      Eval.Tidy (do return .ref (← Eval.new object)) t fun h => h.Live :=
    fun regular hobject =>
      (Eval.Tidy.new regular hobject).bind fun _ _ _ regular hr => .pure regular hr
  cases step with
  | value a => exact .pure regular .atom
  | environment parent =>
    refine (tidy_parentAt regular).bind fun parent t _ regular hparent => ?_
    refine hnew regular fun r hr => ?_
    cases hr with
    | field hb => cases hb
    | parent e =>
      cases e
      exact hparent r rfl
    | captured e => cases e
  | object => exact hnew regular fun t ht => absurd ht Object.not_refers_plain
  | closure code captured =>
    refine hnew regular fun t ht => ?_
    cases ht with
    | field hb => cases hb
    | parent e => cases e
    | captured e ht =>
      cases e
      exact tidy.live_slot captured t ht
  | primitive name host arity =>
    refine hnew regular fun t ht => ?_
    cases ht with
    | field hb => cases hb
    | parent e | captured e => cases e
  | global => exact .global regular
  | register object name value =>
    refine (tidy_objectAt regular).bind fun r t hle regular _ => ?_
    refine (Eval.Tidy.register regular ((tidy.live_slot value).mono hle)).bind
      fun _ _ _ regular _ => ?_
    exact .pure regular .atom
  | lookup object name =>
    exact (tidy_objectAt regular).bind fun _ _ _ regular _ => .lookup regular
  | invoke callee receiver args =>
    refine (tidy_objectAt regular).bind fun r t hle regular hr => ?_
    refine .invoke false depth regular hr (List.forall_mem_cons.2 ⟨?_, fun v hv => ?_⟩)
    · exact (tidy.live_slot receiver).mono hle
    · obtain ⟨i, _, rfl⟩ := List.mem_map.1 hv
      exact (tidy.live_slot i).mono hle
  | evaluate n env =>
    refine (tidy_objectAt regular).bind fun r t _ regular hr => ?_
    exact .evaluate false depth n regular hr
  | text i => exact (Eval.Tidy.read regular).bind fun _ _ _ regular _ => .pure regular .atom
  | quoted i => exact (Eval.Tidy.read regular).bind fun _ _ _ regular _ => .pure regular .atom
  | same i j => exact .pure regular .atom
  | setAttribute => exact .error regular rfl

/-- A step leaves a bench tidy, whether it has a result or ends in an error. -/
lemma Tidy.step (tidy : b.Tidy) (depth : Nat) (step : Step) : (b.step depth step).bench.Tidy := by
  obtain ⟨hle, regular, live⟩ := tidy.perform depth step
  have hslots : ∀ {h : Heap} {v}, b.heap ≤ h → h.Live v → ∀ w ∈ b.slots.push v, h.Live w := by
    intro h v hle hv w hw
    obtain hw | rfl := Array.mem_push.1 hw
    · exact (tidy.live w hw).mono hle
    · exact hv
  rw [Bench.step]
  cases hr : b.perform depth step ⟨b.heap, b.signals, [], ""⟩ with
  | ok v s =>
    rw [hr] at hle regular live
    exact ⟨regular, hslots hle (live v rfl)⟩
  | error e s =>
    rw [hr] at hle regular
    exact ⟨regular, hslots hle .atom⟩

/-- Every bench that an empty one leads to is tidy. -/
theorem tidy_of_leads (leads : empty.Leads b) : b.Tidy := by
  induction leads with
  | refl => exact ⟨Heap.regular_empty, fun _ h => absurd h (Array.not_mem_empty _)⟩
  | tail _ next ih =>
    obtain ⟨depth, step, rfl⟩ := next
    exact ih.step depth step

end Bench

/-- Every state that is reached has a regular heap. -/
theorem State.Reached.regular {s : State} (reached : s.Reached) : s.heap.Regular := by
  induction reached with
  | bench leads => exact (Bench.tidy_of_leads leads).regular
  | @start script report => exact script.regular_start report
  | @evaluation s chatty depth p n _ _ _ henv hm regular =>
    have hscope := Heap.clear_iff_live.2 (.of_lt henv)
    have hruns := regular.hides.runs_evaluate hscope chatty depth p n
    exact (Contract.permits_unaware hruns.path (regular.hides.ready hscope) _ hm).1.regular
  | @invocation s chatty depth _ c _ hf hlive hm regular =>
    have hcallee := Heap.clear_iff_live.2 (.of_lt (Heap.lt_size_of_function? hf))
    have hruns := regular.hides.runs_invoke hf
      (List.forall_mem_cons.2 ⟨hcallee, fun v hv => Heap.clear_iff_live.2 (hlive v hv)⟩) chatty depth
    exact (Contract.permits_unaware hruns.path (regular.hides.ready hcallee) _ hm).1.regular

end Scriptlet

import Scriptlet.Proofs.Path.Start

/-!
# Paths leave nothing out

The moments of a path are all that happens to the heap: from each state to the next there is one
operation at most. What holds at every moment of a run holds of every heap that the run passes
through.

Main statements:
* `Contract.Path.linked`: the moments of a path lead from its first state to its last.
* `Script.history_linked`: the moments of a run lead from its start to what it leaves.
-/

namespace Scriptlet

/-- From one state to another the heap changes by one operation at most. -/
inductive State.Step (s s' : State) : Prop where
  | idle :
    s'.heap = s.heap →
    Step s s'
  | bind {r name value} :
    s'.heap = s.heap.register r name value →
    Step s s'
  | make {object} :
    s'.heap = s.heap.push object →
    Step s s'

/-- Moments lead from one state to another, step by step. -/
inductive Linked : State → List Moment → State → Prop where
  | nil {s} : Linked s [] s
  | cons {s m l s'} :
    s.Step m.state →
    Linked m.state l s' →
    Linked s (m :: l) s'

namespace Linked

variable {s s₁ s' : State} {l l' : List Moment} {m : Moment}

/-- A single moment leads to its state. -/
lemma single (h : s.Step m.state) : Linked s [m] m.state :=
  .cons h .nil

/-- A moment at which nothing is done to the state may come first. -/
lemma idle (hm : m.state = s) (h : Linked s l s') : Linked s (m :: l) s' := by
  subst hm
  exact .cons (.idle rfl) h

/-- Moments that lead to where others start lead on with them. -/
lemma append (h : Linked s l s₁) (h' : Linked s₁ l' s') : Linked s (l ++ l') s' := by
  induction h with
  | nil => exact h'
  | cons step _ ih => exact .cons step (ih h')

/-- A moment at which nothing is done to the state may come last. -/
lemma concat (h : Linked s l s') (hm : m.state = s') : Linked s (l ++ [m]) s' :=
  h.append (idle hm .nil)

end Linked

namespace Contract

variable {C : Contract} {chatty : Bool} {scope : Ref}

/-- An operation of a rule is one operation at most. -/
lemma Operates.step {s m} (op : C.Operates scope s m) : s.Step m.state := by
  cases op with
  | look _ | signal => exact .idle rfl
  | bind _ _ => exact .bind rfl
  | make _ _ _ => exact .make rfl

/-- The moments of a path lead from its first state to its last. -/
theorem Path.linked {s l e s'} (path : C.Path chatty scope s l e s') : Linked s l s' := by
  induction path with
  | done | raise _ => exact .nil
  | append _ _ ih₁ ih₂ => exact ih₁.append ih₂
  | operate op => exact .single op.step
  | evaluate _ _ _ ih | invoke _ _ _ _ ih => exact (ih.concat rfl).idle rfl
  | frame _ _ _ hs _ ih =>
    subst hs
    exact .cons (.make rfl) ((ih.concat rfl).idle rfl)
  | host _ _ _ hr => exact .idle rfl (.cons (.idle (Path.host_heap_eq hr)) (.idle rfl .nil))
  | refuse _ _ => exact .idle rfl (.idle rfl .nil)

end Contract

namespace Script

/-- The moments of a run lead from its start, step by step, to a state with the heap that the run
leaves. -/
theorem history_linked (script : Script) (depth : Nat) (report : Report) :
    ∃ s', s'.heap = (interpret depth report script).state.heap ∧
      Linked (script.start report) (script.history depth report) s' := by
  rw [history]
  split
  · rename_i hblock
    rw [interpret_eq_ending script depth report hblock, Report.heap_ending]
    have ready := Contract.ready_any scope (script.start report)
    have path := Contract.path_evaluate (p := .statement) (n := script.body) report.verbose depth
      ready trivial
    rw [← script.watch_result] at path
    exact ⟨_, rfl, path.linked.idle rfl⟩
  · rename_i hblock
    rw [interpret_of_ne_block script depth report hblock]
    exact ⟨_, rfl, .idle rfl .nil⟩

end Script

end Scriptlet

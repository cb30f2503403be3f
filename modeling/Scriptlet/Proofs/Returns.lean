import Scriptlet.Proofs.Path.Start

/-!
# The discipline of returns

Nothing keeps the signal of a `return` from being stored or passed on, but no script does that in
which every `return` is a statement. For such a script a signal only ever travels: from a `return`
through the statements around it up to the call that unwraps it.

The contract behind this says that what is put to use is no signal, that a signal comes out of
statements only and carries no other, and that the body of every closure is a statement of the
script.

Main statements:
* `Script.history_disciplined`: through all of a run, no field holds a signal, no call is given or
  answers one, and no operand yields one.
-/

namespace Scriptlet

open Node (Position)

/-- Whether a value is the signal of a `return`. -/
def Value.IsSignal : Value → Prop
  | .returning .. => True
  | _ => False

/-- No field of an object holds a signal. -/
def Heap.SignalFree (h : Heap) : Prop :=
  ∀ r o, h.get? r = some o → ∀ b ∈ o.fields, ¬ b.2.IsSignal

/-- What is evaluated stands at its position in a tree, and signals are neither yielded by operands
nor given to calls nor answered by them. -/
def Event.Disciplined (root : Node) : Event → Prop
  | .enter p n _ => root.Occurs p n
  | .leave p n _ o => root.Occurs p n ∧ (p = .operand → ∀ v, o = .ok v → ¬ v.IsSignal)
  | .invoke c => ¬ c.receiver.IsSignal ∧ ∀ v ∈ c.args, ¬ v.IsSignal
  | .answer _ o => ∀ v, o = .ok v → ¬ v.IsSignal
  | _ => True

namespace Contract

/-- The contract of a tree in which every `return` is a statement. -/
def returns {root : Node} (proper : root.ReturnProper) : Contract where
  Val _ v := ¬ v.IsSignal
  Kind _ k := ∀ code captured, k = .closure code captured → root.Occurs .statement code.body
  Scope _ _ := True
  Fit _ := True
  Code := root.Occurs
  Caller _ := True
  Yield p _ v := v.IsSignal → p = .statement ∧ ¬ v.result.IsSignal
  val_mono _ hv := hv
  kind_mono _ hk := hk
  scope_mono _ hr := hr
  fit_register _ _ := trivial
  fit_push _ _ _ := trivial
  val_atom := id
  val_plain _ := id
  val_closure _ := id
  kind_plain := nofun
  kind_closure hc _ := by
    rintro _ _ ⟨⟩
    exact hc.part List.mem_cons_self
  kind_frame _ _ := nofun
  scope_frame _ := trivial
  code_part hc hm := hc.part hm
  code_body hk := hk _ _ rfl
  caller_of_code _ _ := trivial
  yield_val hv h := absurd h hv
  yield_returning hc hv _ := ⟨proper _ _ hc rfl, hv⟩
  val_operand hv h := nomatch (hv h).1
  -- what a call unwraps is no signal again: a signal carries none
  val_result {_ v} hv := by
    cases v with
    | returning signal v => exact (hv trivial).2
    | atom _ | ref _ => exact id

variable {root : Node} (proper : root.ReturnProper)

/-- A fresh global scope is as the contract of returns says. -/
lemma starts_returns : (returns proper).Starts :=
  ⟨typed_prepare trivial nofun (fun _ _ => nofun) fun _ _ => id, trivial⟩

/-- A heap as the contract of returns says is free of signals. -/
lemma Typed.signalFree {h : Heap} (ht : (returns proper).Typed h) : h.SignalFree :=
  fun r o ho => (ht.objects r o ho).2

/-- A moment as the contract of returns says is disciplined. -/
lemma Permits.disciplined {m} (hm : (returns proper).Permits m) : m.event.Disciplined root := by
  obtain ⟨event, s⟩ := m
  cases event with
  | enter p n scope => exact hm.1
  | leave p n scope o =>
    obtain ⟨hc, _, hy⟩ := hm
    refine ⟨hc, ?_⟩
    rintro rfl v hv
    exact (returns proper).val_operand (hy v hv)
  | invoke c => exact ⟨hm.receiver, hm.args⟩
  | answer c o => exact hm
  | opened _ | closed _ | use _ | step => exact trivial

end Contract

namespace Script

/-- Through all of a run of a script in which every `return` is a statement, however it ends, no
field holds a signal, no call is given or answers one, and no operand yields one. -/
theorem history_disciplined (script : Script) (depth : Nat) (report : Report)
    (proper : script.body.ReturnProper) :
    (∀ m ∈ script.history depth report,
        m.state.heap.SignalFree ∧ m.event.Disciplined script.body) ∧
      (interpret depth report script).state.heap.SignalFree := by
  have starts := Contract.starts_returns proper
  have hc : (Contract.returns proper).Code .statement script.body := .root
  refine ⟨fun m hm => ?_, (Contract.typed_interpret depth report starts hc).signalFree⟩
  obtain ⟨typed, permits⟩ := Contract.permits_history depth report starts hc m hm
  exact ⟨typed.signalFree, permits.disciplined⟩

/-- A function that returns out of a choice, and a call of it. -/
def earlyReturn : Script :=
  let choice : Node := .cond (.var "x" 2) (.block [.ret (.var "x" 2) 2] 2) (.block [] 3) 2
  ⟨.block
    [.assign "f" (.function none ["x"] (.block [choice, .literal (.int 5) 4] 1) 1) true 1,
      .call (.var "f" 5) [.literal (.int 7) 5] 5] 1⟩

/-- The run of a script with an early return is disciplined. -/
theorem history_disciplined_earlyReturn :
    earlyReturn.body.ReturnProper ∧
      (∀ m ∈ earlyReturn.history 9 .quiet,
        m.state.heap.SignalFree ∧ m.event.Disciplined earlyReturn.body) ∧
      (interpret 9 .quiet earlyReturn).state.heap.SignalFree := by
  have proper : earlyReturn.body.ReturnProper := by decide
  exact ⟨proper, history_disciplined earlyReturn 9 .quiet proper⟩

end Script

end Scriptlet

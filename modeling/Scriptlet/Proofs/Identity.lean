import Scriptlet.Proofs.Coupling.Start
import Scriptlet.Proofs.Heap.Reach

/-!
# What evaluation sees of a heap

Evaluation cannot tell an object from its counterpart in another heap, and does not see at all what
it cannot reach. From states whose heaps correspond, the same node in corresponding scopes, or
corresponding functions on corresponding arguments, put out the same and end with corresponding
values or the same error, and the heaps that they leave correspond as before, with what is new in
either (`Correspondence.identities_immaterial`). Scoping is lexical for that reason: a call does not
see the frame of its caller, unless that can be reached from the function or what it is called with.

Main definitions and statements:
* `Correspondence.Extends`, `Correspondence.Agree`: what two runs have in common in the end.
* `Coupling.lockstep`: two runs from states whose heaps correspond, side by side.
* `Script.regular_interpret`: the heaps of scripts are regular.
-/

namespace Scriptlet

namespace Correspondence

/-- A correspondence that goes on from another after runs from these states: what else corresponds
by it was made in the runs, as the one so many places after the first in either. -/
structure Extends (D C : Correspondence) (s s' : State) : Prop where
  le : C ≤ D
  refs : ∀ r r', D.refs r r' → C.refs r r' ∨
    ∃ i, r.index = s.heap.size + i ∧ r'.index = s'.heap.size + i
  signals : ∀ k k', D.signals k k' → C.signals k k' ∨
    ∃ i, k = s.signals + i ∧ k' = s'.signals + i
  nodes : D.nodes = C.nodes

/-- Corresponding values, or the same error. -/
inductive Outcomes (C : Correspondence) : Except Error Value → Except Error Value → Prop where
  | value {v v'} :
    C.Values v v' →
    Outcomes C (.ok v) (.ok v')
  | error {e} :
    Outcomes C (.error e) (.error e)

/-- Two runs from these states that agree: they put out the same, and end alike under a
correspondence that goes on from this one. -/
structure Agree (C : Correspondence) (s s' : State) (r r' : Result Value) : Prop where
  alike : ∃ D : Correspondence, D.Extends C s s' ∧
    D.Between (Eval.final r).heap (Eval.final r').heap ∧
      D.Outcomes (Eval.outcome r) (Eval.outcome r')
  writes : ∃ ws, (Eval.final r).writes = s.writes ++ ws ∧ (Eval.final r').writes = s'.writes ++ ws
  chatter : ∃ text,
    (Eval.final r).chatter = s.chatter ++ text ∧ (Eval.final r').chatter = s'.chatter ++ text

end Correspondence

namespace Coupling

variable {C : Correspondence} {s s' : State}

/-- Two runs from states whose heaps correspond. What is made at the same time corresponds from then
on. -/
def lockstep (between : C.Between s.heap s'.heap) (chatty : Bool) : Coupling where
  refs r r' := C.refs r r' ∨ ∃ i, r.index = s.heap.size + i ∧ r'.index = s'.heap.size + i
  signals k k' := C.signals k k' ∨ ∃ i, k = s.signals + i ∧ k' = s'.signals + i
  nodes := C.nodes
  left_unique := by
    rintro r t u (ht | ⟨i, hi, hi'⟩) (hu | ⟨j, hj, hj'⟩)
    · exact C.left_unique ht hu
    · have hlt := (between.lt_size ht).1
      omega
    · have hlt := (between.lt_size hu).1
      omega
    · have hindex : t.index = u.index := by omega
      exact congrArg Ref.mk hindex
  right_unique := by
    rintro r t u (hr | ⟨i, hi, hi'⟩) (ht | ⟨j, hj, hj'⟩)
    · exact C.right_unique hr ht
    · have hlt := (between.lt_size hr).2
      omega
    · have hlt := (between.lt_size ht).2
      omega
    · have hindex : r.index = t.index := by omega
      exact congrArg Ref.mk hindex
  matches_of_nodes := C.matches_of_nodes
  chatty := chatty
  chatty' := chatty
  writes ws ws' := ∃ more, ws = s.writes ++ more ∧ ws' = s'.writes ++ more
  chatter out out' := ∃ more, out = s.chatter ++ more ∧ out' = s'.chatter ++ more
  writes_append := by
    rintro _ _ text ⟨more, rfl, rfl⟩
    exact ⟨more ++ [text], List.append_assoc .., List.append_assoc ..⟩
  chatter_append := by
    rintro _ _ text ⟨more, rfl, rfl⟩
    exact ⟨more ++ if chatty then text else "", String.append_assoc .., String.append_assoc ..⟩

variable {between : C.Between s.heap s'.heap} {chatty : Bool}

/-- What corresponds at the start still does in lockstep. -/
lemma le_lockstep : C ≤ (lockstep between chatty).upTo s :=
  ⟨fun _ _ hr => ⟨.inl hr, (between.lt_size hr).1⟩, fun _ _ hk => .inl hk, fun _ _ hn => hn⟩

/-- States whose heaps correspond are in lockstep. -/
lemma states_lockstep : (lockstep between chatty).States s s' := by
  refine ⟨?_, fun i => .inr ⟨i, rfl, rfl⟩, fun i => .inr ⟨i, rfl, rfl⟩,
    ⟨[], (List.append_nil _).symm, (List.append_nil _).symm⟩,
    ⟨"", String.append_empty.symm, String.append_empty.symm⟩⟩
  rintro r r' ⟨hr | ⟨i, hi, _⟩, hlt⟩
  · obtain ⟨o, o', ho, ho', alike⟩ := between r r' hr
    exact ⟨o, o', ho, ho', alike.mono le_lockstep⟩
  · exact absurd (hi ▸ hlt) (Nat.not_lt.2 (Nat.le_add_right _ _))

/-- What the runs have come to corresponds by a correspondence that goes on from the first. -/
lemma extends_lockstep {t : State} (hle : s.heap.size ≤ t.heap.size) :
    ((lockstep between chatty).upTo t).Extends C s s' :=
  ⟨le_trans le_lockstep (upTo_mono hle), fun _ _ hr => hr.1, fun _ _ hk => hk, rfl⟩

/-- Runs that end alike agree. -/
lemma Ends.agree (hnodes : ∀ {n n'}, C.nodes n n' → n = n') {r r' : Result Value}
    (hends : (lockstep between chatty).Ends s.heap.size Correspondence.Values r r') :
    C.Agree s s' r r' := by
  cases hends with
  | ok hle states hv =>
    exact ⟨⟨_, extends_lockstep hle, states.between, .value hv⟩, states.writes, states.chatter⟩
  | error hle states he =>
    refine ⟨⟨_, extends_lockstep hle, states.between, ?_⟩, states.writes, states.chatter⟩
    cases he with
    | @failure cause site site' hsite =>
      cases hsite with
      | none => exact .error
      | some hn =>
        obtain rfl := hnodes hn
        exact .error
    | fault | tooDeep => exact .error

end Coupling

/-- The heap that the run of a script ends with is regular. -/
theorem Script.regular_interpret (script : Script) (depth : Nat) (report : Report) :
    (interpret depth report script).state.heap.Regular := by
  -- two runs of the script side by side are at the same state all the time
  have regular : ∀ {s : State},
      (Coupling.fromStart Node.Matches.of_eq report.verbose report.verbose).States s s →
      s.heap.Regular :=
    fun states => states.between.regular fun _ hr => ⟨rfl, hr⟩
  by_cases hblock : script.body.kind = .block
  · have hends := script.ends_alike Node.Matches.of_eq script report report depth rfl
    rw [script.interpret_eq_ending depth report hblock, script.watch_result, report.heap_ending]
    generalize evaluate report.verbose depth script.body scope _ = r at hends
    cases hends with
    | ok _ states _ => exact regular states
    | error _ states _ => exact regular states
  · rw [script.interpret_of_ne_block depth report hblock]
    exact regular (script.states_start Node.Matches.of_eq script report report)

namespace Eval

/-- What can be seen of a computation: how it ends, and what it has put out. -/
def visible (r : Result α) : Except Error α × List String × String :=
  (outcome r, (final r).writes, (final r).chatter)

end Eval

namespace Correspondence

variable {C : Correspondence} {s s' : State} (chatty : Bool) (depth : Nat)

section Agree

variable (hnodes : ∀ n n', C.nodes n n' ↔ n = n') (between : C.Between s.heap s'.heap)
include hnodes between

/-- A node is evaluated alike in scopes that correspond. -/
lemma agree_evaluate (n : Node) {env env'} (henv : C.refs env env') :
    C.Agree s s' (evaluate chatty depth n env s) (evaluate chatty depth n env' s') := by
  have states : (Coupling.lockstep between chatty).States s s' := Coupling.states_lockstep
  have hle : C ≤ (Coupling.lockstep between chatty).upTo s := Coupling.le_lockstep
  exact Coupling.Ends.agree (hnodes _ _).1
    (Coupling.evaluate depth states ((hnodes n n).2 rfl) (hle.1 _ _ henv))

/-- Functions that correspond are invoked alike. -/
lemma agree_invoke {callee callee' receiver receiver' args args'} (hcallee : C.refs callee callee')
    (hreceiver : C.Values receiver receiver') (hargs : List.Forall₂ C.Values args args') :
    C.Agree s s' (Eval.invoke chatty (evaluate chatty depth) callee receiver args s)
      (Eval.invoke chatty (evaluate chatty depth) callee' receiver' args' s') := by
  have states : (Coupling.lockstep between chatty).States s s' := Coupling.states_lockstep
  have hle : C ≤ (Coupling.lockstep between chatty).upTo s := Coupling.le_lockstep
  exact Coupling.Ends.agree (hnodes _ _).1
    (Coupling.invoke depth states (hle.1 _ _ hcallee) (hreceiver.mono hle)
      (hargs.imp fun _ _ hv => hv.mono hle))

end Agree

/-- Two runs from states that differ in nothing but objects that stand for none agree in all that can
be seen. -/
lemma Agree.visible_eq {h : Heap} (inPlace : C.InPlace) (hsize : h.size = s.heap.size) {r r'}
    (agree : C.Agree s { s with heap := h } r r') : Eval.visible r' = Eval.visible r := by
  obtain ⟨⟨D, ext, _, hout⟩, ⟨ws, hws, hws'⟩, ⟨text, htext, htext'⟩⟩ := agree
  have inPlace' : D.InPlace := by
    constructor
    · intro t t' ht
      obtain ht | ⟨i, hi, hi'⟩ := ext.refs t t' ht
      · exact inPlace.refs ht
      · have hindex : t.index = t'.index := by simp only [hi, hi', hsize]
        exact congrArg Ref.mk hindex
    · intro k k' hk
      obtain hk | ⟨i, hi, hi'⟩ := ext.signals k k' hk
      · exact inPlace.signals hk
      · exact hi.trans hi'.symm
  have houtcome : Eval.outcome r' = Eval.outcome r := by
    generalize Eval.outcome r = o at hout
    generalize Eval.outcome r' = o' at hout
    cases hout with
    | value hv => rw [inPlace'.value_eq hv]
    | error => rfl
  simp only [Eval.visible, houtcome, hws, hws', htext, htext']

/-- What objects are does not matter to evaluation, nor does anything that it cannot reach. Two runs
from states whose heaps correspond agree, be they evaluations of a node in corresponding scopes or
invocations of corresponding functions. In particular all that can be seen of a call is the same,
whatever stands in objects, such as the frame of its caller, that cannot be reached from the
function, its receiver and its arguments. -/
theorem identities_immaterial (chatty : Bool) (depth : Nat) :
    (∀ (C : Correspondence) (s s' : State), (∀ n n', C.nodes n n' ↔ n = n') →
      C.Between s.heap s'.heap →
        (∀ n env env', C.refs env env' →
          C.Agree s s' (evaluate chatty depth n env s) (evaluate chatty depth n env' s')) ∧
        ∀ callee callee' receiver receiver' args args', C.refs callee callee' →
          C.Values receiver receiver' → List.Forall₂ C.Values args args' →
            C.Agree s s'
              (Eval.invoke chatty (evaluate chatty depth) callee receiver args s)
              (Eval.invoke chatty (evaluate chatty depth) callee' receiver' args' s')) ∧
      ∀ (s : State) (h : Heap) callee receiver args, s.heap.Regular →
        (∀ v ∈ .ref callee :: receiver :: args, s.heap.Live v) → h.size = s.heap.size →
          (∀ r, s.heap.Reaches (.ref callee :: receiver :: args) r → h.get? r = s.heap.get? r) →
            let call := Eval.invoke chatty (evaluate chatty depth) callee receiver args
            Eval.visible (call { s with heap := h }) = Eval.visible (call s) := by
  refine ⟨fun C s s' hnodes between => ⟨?_, ?_⟩, ?_⟩
  · intro n env env' henv
    exact agree_evaluate chatty depth hnodes between n henv
  · intro callee callee' receiver receiver' args args' hcallee hreceiver hargs
    exact agree_invoke chatty depth hnodes between hcallee hreceiver hargs
  · intro s h callee receiver args regular live hsize same
    have between := regular.between live same
    -- what the call is given can be reached, so it stands for itself
    have hvalue : ∀ v ∈ .ref callee :: receiver :: args,
        (reachable s.heap (.ref callee :: receiver :: args)).Values v v :=
      fun v hv => .of_ref? (fun _ => rfl) fun r hr => ⟨rfl, .root hv hr⟩
    obtain ⟨_, hreceiver, hargs⟩ :=
      (List.forall_mem_cons.1 hvalue).imp_right List.forall_mem_cons.1
    have agree : (reachable s.heap _).Agree s { s with heap := h } _ _ :=
      agree_invoke chatty depth (fun _ _ => Iff.rfl) between
        ⟨rfl, .root List.mem_cons_self rfl⟩ hreceiver (List.forall₂_same.2 hargs)
    exact agree.visible_eq reachable_inPlace hsize

/-- A function that puts what it is given into a new object, beside what `x` is in its scope. -/
def pairing : Function :=
  ⟨none, ["y"], .ret (.object [("x", .var "x" 1), ("y", .var "y" 1)] 1) 1, 1⟩

/-- A scope, the frame of a call in it, and a function that was made in the scope. -/
def pairingHere : State where
  heap := ⟨#[⟨.environment none, [("x", .str "near")]⟩,
    ⟨.environment (some ⟨0⟩), []⟩, ⟨.closure pairing (.ref ⟨0⟩), []⟩]⟩
  signals := 0
  writes := []
  chatter := ""

/-- The same scope and the same function among other objects. -/
def pairingThere : State where
  heap := ⟨#[⟨.plain, []⟩, ⟨.environment none, [("x", .str "near")]⟩,
    ⟨.closure pairing (.ref ⟨1⟩), []⟩, ⟨.plain, [("x", .str "far")]⟩]⟩
  signals := 7
  writes := ["before\n"]
  chatter := ""

/-- The scopes and the functions correspond, and nothing else does. -/
def pairingMoved : Correspondence where
  refs r r' := r = ⟨0⟩ ∧ r' = ⟨1⟩ ∨ r = ⟨2⟩ ∧ r' = ⟨2⟩
  signals _ _ := False
  nodes := Eq
  left_unique := by
    rintro r s s' (⟨rfl, rfl⟩ | ⟨rfl, rfl⟩) (⟨h, rfl⟩ | ⟨h, rfl⟩) <;> simp at h ⊢
  right_unique := by
    rintro r r' s (⟨rfl, rfl⟩ | ⟨rfl, rfl⟩) (⟨rfl, h⟩ | ⟨rfl, h⟩) <;> simp at h ⊢
  matches_of_nodes := .of_eq

/-- The two heaps of the example correspond. -/
lemma pairingMoved_between : pairingMoved.Between pairingHere.heap pairingThere.heap := by
  rintro r r' (⟨rfl, rfl⟩ | ⟨rfl, rfl⟩)
  · exact ⟨_, _, rfl, rfl, .outermost, .cons ⟨rfl, .atom⟩ .nil⟩
  · exact ⟨_, _, rfl, rfl, .closure rfl (.ref (.inl ⟨rfl, rfl⟩)), .nil⟩

/-- All that the objects of the one heap refer to is its first object, which refers to none. -/
lemma pairingHere_refers {r o t} (ho : pairingHere.heap.get? r = some o) (ht : o.Refers t) :
    t = ⟨0⟩ ∧ 0 < r.index := by
  obtain ⟨i⟩ := r
  match i with
  | 0 =>
    obtain rfl : (⟨.environment none, [("x", .str "near")]⟩ : Object) = o := Option.some.inj ho
    cases ht with
    | field hb e =>
      obtain rfl := List.mem_singleton.1 hb
      cases e
    | parent e | captured e => cases e
  | 1 =>
    obtain rfl : (⟨.environment (some ⟨0⟩), []⟩ : Object) = o := Option.some.inj ho
    cases ht with
    | field hb => cases hb
    | parent e =>
      cases e
      exact ⟨rfl, Nat.zero_lt_one⟩
    | captured e => cases e
  | 2 =>
    obtain rfl : (⟨.closure pairing (.ref ⟨0⟩), []⟩ : Object) = o := Option.some.inj ho
    cases ht with
    | field hb => cases hb
    | parent e => cases e
    | captured e ht =>
      cases e
      cases ht
      exact ⟨rfl, Nat.zero_lt_two⟩
  | i + 3 => cases ho

/-- The one heap of the example is regular. -/
lemma pairingHere_regular : pairingHere.heap.Regular := by
  constructor
  · intro r o t ho ht
    obtain ⟨rfl, _⟩ := pairingHere_refers ho ht
    decide
  · intro r o p ho e
    obtain ⟨rfl, hlt⟩ := pairingHere_refers ho (.parent e)
    exact hlt

/-- From the call of the example only the function and its scope are reached. -/
lemma reaches_pairingHere {r} (hr : pairingHere.heap.Reaches [.ref ⟨2⟩, .undefined, .str "z"] r) :
    r = ⟨0⟩ ∨ r = ⟨2⟩ := by
  cases hr with
  | root hv e =>
    simp only [List.mem_cons, List.not_mem_nil, or_false] at hv
    obtain rfl | rfl | rfl := hv
    · exact .inr (Option.some.inj e).symm
    · cases e
    · cases e
  | step _ ho ht => exact .inl (pairingHere_refers ho ht).1

/-- The function makes another object here than there, and with the same in it, and it does not see
what the frame of its caller binds. -/
theorem identities_immaterial_pairing :
    let call := Eval.invoke false (evaluate false 9) ⟨2⟩ .undefined [.str "z"]
    let heap := pairingHere.heap.register ⟨1⟩ "x" (.str "far")
    (∀ n n', pairingMoved.nodes n n' ↔ n = n') ∧
      pairingMoved.Between pairingHere.heap pairingThere.heap ∧
      pairingMoved.Agree pairingHere pairingThere
        (evaluate false 9 (.var "x" 1) ⟨0⟩ pairingHere)
        (evaluate false 9 (.var "x" 1) ⟨1⟩ pairingThere) ∧
      pairingMoved.Agree pairingHere pairingThere (call pairingHere) (call pairingThere) ∧
      Eval.outcome (call pairingHere) = .ok (.ref ⟨4⟩) ∧
      Eval.outcome (call pairingThere) = .ok (.ref ⟨5⟩) ∧
      pairingHere.heap.Regular ∧
      Eval.visible (call { pairingHere with heap }) = Eval.visible (call pairingHere) := by
  intro call heap
  have hnodes : ∀ n n', pairingMoved.nodes n n' ↔ n = n' := fun _ _ => Iff.rfl
  obtain ⟨agree, invisible⟩ := identities_immaterial false 9
  obtain ⟨hevaluate, hinvoke⟩ :=
    agree pairingMoved pairingHere pairingThere hnodes pairingMoved_between
  refine ⟨hnodes, pairingMoved_between, hevaluate _ _ _ (.inl ⟨rfl, rfl⟩), ?_, rfl, rfl,
    pairingHere_regular, ?_⟩
  · exact hinvoke _ _ _ _ _ _ (.inr ⟨rfl, rfl⟩) .atom (.cons .atom .nil)
  · refine invisible pairingHere heap ⟨2⟩ .undefined [.str "z"] pairingHere_regular ?_ ?_ ?_
    · refine List.forall_mem_cons.2 ⟨.of_lt (by decide), ?_⟩
      exact List.forall_mem_cons.2 ⟨nofun, List.forall_mem_singleton.2 nofun⟩
    · exact Heap.size_register ..
    · intro r hr
      refine Heap.get?_register_of_ne ?_ ..
      obtain rfl | rfl := reaches_pairingHere hr
      · decide
      · decide

end Correspondence

end Scriptlet

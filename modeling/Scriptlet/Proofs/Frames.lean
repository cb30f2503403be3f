import Scriptlet.Proofs.Path.Start

/-!
# Privacy of frames

The frame of a call is an environment like the global scope, but no value ever refers to it: only
closures and other frames do. What is bound in a frame is hence bound by evaluations in it, and
after its call has ended there are none any more.

Main definitions and statements:
* `Heap.Secret`: a value that neither is an environment nor carries one, the global scope apart.
* `Contract.frames`: the contract that says so, and `Contract.Path.get?_environment`: what is bound in
  an environment is bound by evaluations in it.
* `Contract.Path.freezes`: what is bound in a frame stays as it is once the frame is closed.
* `Script.history_private`: both for the runs of scripts.
-/

namespace Scriptlet

/-- A value neither is an environment nor carries one, the global scope apart. -/
def Heap.Secret (h : Heap) (v : Value) : Prop :=
  ∀ r, v.ref? = some r → h.IsEnvironment r → r = Script.scope

namespace Heap.Secret

variable {h h' : Heap} {v : Value}

/-- Growth gives nothing away, for a new environment is not one that was there before. -/
lemma mono (hs : h.Secret v) (hle : h ≤ h') (live : h.Live v) : h'.Secret v :=
  fun r hr henv => hs r hr (henv.of_le hle (live r hr))

/-- What is no environment gives none away. -/
lemma of_kind? {r k} (hk : h.kind? r = some k) (hne : ∀ parent, k ≠ .environment parent) :
    h.Secret (.ref r) := by
  rintro _ ⟨⟩ ⟨parent, henv⟩
  exact absurd (Option.some.inj (hk.symm.trans henv)) (hne parent)

/-- What a call unwraps gives away no more than what it is given. -/
lemma result (hs : h.Secret v) : h.Secret v.result := by
  cases v with
  | returning signal v => exact hs
  | atom _ | ref _ => exact nofun

end Heap.Secret

/-- No field of an object gives an environment away. -/
def Heap.Private (h : Heap) : Prop :=
  ∀ r o, h.get? r = some o → ∀ b ∈ o.fields, h.Secret b.2

/-- No environment but one and the global scope differs between two heaps. -/
def Heap.Spares (h h' : Heap) (env : Ref) : Prop :=
  ∀ r, h.IsEnvironment r → r ≠ env → r ≠ Script.scope → h'.get? r = h.get? r

/-- What is passed to a call, and what a call or an evaluation yields, gives no environment away. -/
def Moment.Private (m : Moment) : Prop :=
  match m.event with
  | .leave _ _ _ o | .answer _ o => ∀ v, o = .ok v → m.state.heap.Secret v
  | .invoke c =>
    m.state.heap.Secret (.ref c.callee) ∧ m.state.heap.Secret c.receiver ∧
      ∀ v ∈ c.args, m.state.heap.Secret v
  | _ => True

/-- The frame that is closed at a moment, if one is, is the same in another heap. -/
def Moment.Freezes (m : Moment) (h : Heap) : Prop :=
  ∀ frame, m.event = .closed frame → h.get? frame = m.state.heap.get? frame

namespace Contract

variable {C : Contract}

namespace Path

variable {chatty : Bool} {scope : Ref} {s s' : State} {l : List Moment} {e : Option Error}

/-- A frame that is closed along a path was made along it, and is an environment at its end. -/
lemma closed_cases (path : C.Path chatty scope s l e s') :
    ∀ m ∈ l, ∀ frame, m.event = .closed frame →
      s.heap.size ≤ frame.index ∧ s'.heap.IsEnvironment frame := by
  induction path with
  | done | raise _ => exact List.forall_mem_nil _
  | append path₁ path₂ ih₁ ih₂ =>
    refine List.forall_mem_append.2 ⟨?_, ?_⟩
    · intro m hm frame hf
      obtain ⟨hsize, henv⟩ := ih₁ m hm frame hf
      exact ⟨hsize, henv.mono path₂.le⟩
    · intro m hm frame hf
      obtain ⟨hsize, henv⟩ := ih₂ m hm frame hf
      exact ⟨Nat.le_trans (Heap.size_le_of_le path₁.le) hsize, henv⟩
  | operate op =>
    refine List.forall_mem_singleton.2 ?_
    intro frame hf
    cases op <;> cases hf
  | evaluate _ _ _ ih | invoke _ _ _ _ ih => exact forall_mem_between nofun ih nofun
  | host _ _ _ _ =>
    exact forall_mem_between (l := [_]) nofun (List.forall_mem_singleton.2 nofun) nofun
  | refuse _ _ => exact forall_mem_between (l := []) nofun (List.forall_mem_nil _) nofun
  | @frame scope s _ _ _ _ s₁ _ _ _ _ _ _ hs path ih =>
    have hle := frame_le hs
    refine List.forall_mem_cons.2 ⟨nofun, forall_mem_between nofun ?_ ?_⟩
    · intro m hm frame hf
      obtain ⟨hsize, henv⟩ := ih m hm frame hf
      exact ⟨Nat.le_trans (Heap.size_le_of_le hle) hsize, henv⟩
    · rintro _ ⟨⟩
      have henv : s₁.heap.IsEnvironment s.heap.next := hs ▸ Heap.isEnvironment_next ..
      exact ⟨Nat.le_refl _, henv.mono path.le⟩

end Path

/-- The contract of frames: values do not refer to them, and closures are made in environments. -/
def frames : Contract where
  Val h v := h.Live v ∧ h.Secret v
  Kind h k := ∀ code captured, k = .closure code captured →
    ∃ r, captured = .ref r ∧ h.IsEnvironment r
  Scope h r := h.IsEnvironment r
  Fit _ := True
  Code _ _ := True
  Caller _ := True
  Yield _ h v := h.Live v ∧ h.Secret v
  val_mono hle hv := ⟨hv.1.mono hle, hv.2.mono hle hv.1⟩
  kind_mono hle hk code captured e := by
    obtain ⟨r, hr, henv⟩ := hk code captured e
    exact ⟨r, hr, henv.mono hle⟩
  scope_mono := @Heap.IsEnvironment.mono
  fit_register _ _ := trivial
  fit_push _ _ _ := trivial
  val_atom := ⟨nofun, nofun⟩
  val_plain _ := ⟨.next, .of_kind? (Heap.kind?_push_next ..) nofun⟩
  val_closure _ := ⟨.next, .of_kind? (Heap.kind?_push_next ..) nofun⟩
  kind_plain := nofun
  kind_closure _ hs := by
    rintro _ _ ⟨⟩
    exact ⟨_, rfl, hs⟩
  kind_frame _ _ := nofun
  scope_frame _ := Heap.isEnvironment_next ..
  code_part _ _ := trivial
  code_body _ := trivial
  caller_of_code _ _ := trivial
  yield_val hv := hv
  yield_returning _ hv := hv
  val_operand hv := hv
  val_result hv := ⟨hv.1.result, hv.2.result⟩

/-- A fresh global scope is as the contract of frames says. -/
lemma starts_frames : frames.Starts := by
  refine ⟨typed_prepare trivial nofun (fun _ _ => nofun) fun r hr => ⟨.of_lt hr, ?_⟩,
    Global.scope_isEnvironment⟩
  rintro _ ⟨⟩ henv
  exact Global.isEnvironment_prepare henv

/-- Moments as the contract of frames says are private. -/
lemma Permits.isPrivate {m} (hm : frames.Permits m) : m.Private := by
  obtain ⟨event, s⟩ := m
  cases event with
  | leave p n scope o => exact fun v hv => (hm.2.2 v hv).2
  | invoke c => exact ⟨hm.callee.2, hm.receiver.2, fun v hv => (hm.args v hv).2⟩
  | answer c o => exact fun v hv => (hm v hv).2
  | enter _ _ _ | opened _ | closed _ | use _ | step => exact trivial

/-- What is bound in an environment is bound by evaluations in it, the global scope apart. -/
lemma Path.get?_environment {chatty scope r s l e s'} (path : frames.Path chatty scope s l e s')
    (ready : frames.Ready scope s) (henv : s.heap.IsEnvironment r) (hne : r ≠ scope)
    (hg : r ≠ Script.scope) :
    (∀ m ∈ l, m.state.heap.get? r = s.heap.get? r) ∧ s'.heap.get? r = s.heap.get? r :=
  path.get?_eq ready henv.lt_size hne fun _ hle hv => hg (hv.2 r rfl (henv.mono hle))

/-- A frame that is closed along a path is left alone by a path that goes on from there. -/
lemma Path.get?_closed {chatty scope s l e s₁ l' e' s'} (path : frames.Path chatty scope s l e s₁)
    (next : frames.Path chatty scope s₁ l' e' s') (ready : frames.Ready scope s)
    (hg : s.heap.IsEnvironment Script.scope) {m frame} (hm : m ∈ l)
    (hf : m.event = .closed frame) :
    (∀ m' ∈ l', m'.state.heap.get? frame = s₁.heap.get? frame) ∧
      s'.heap.get? frame = s₁.heap.get? frame := by
  obtain ⟨hsize, henv⟩ := path.closed_cases m hm frame hf
  have hne : ∀ r, s.heap.IsEnvironment r → frame ≠ r := by
    rintro r hr rfl
    exact Nat.not_lt.2 hsize hr.lt_size
  exact next.get?_environment (path.ready ready) henv (hne _ ready.scope) (hne _ hg)

/-- Frames that are closed along a path are left alone from then on. -/
theorem Path.freezes {chatty scope s l e s'} (path : frames.Path chatty scope s l e s')
    (ready : frames.Ready scope s) (hg : s.heap.IsEnvironment Script.scope) :
    l.Pairwise (fun m m' => m.Freezes m'.state.heap) ∧ ∀ m ∈ l, m.Freezes s'.heap := by
  induction path with
  | done | raise _ => exact ⟨.nil, List.forall_mem_nil _⟩
  | append path₁ path₂ ih₁ ih₂ =>
    obtain ⟨h₁, e₁⟩ := ih₁ ready hg
    obtain ⟨h₂, e₂⟩ := ih₂ (path₁.ready ready) (hg.mono path₁.le)
    -- what the first path closed, the second one leaves alone
    refine ⟨List.pairwise_append.2 ⟨h₁, h₂, ?_⟩, List.forall_mem_append.2 ⟨?_, e₂⟩⟩
    · intro m hm m' hm' frame hf
      have alone := (path₁.get?_closed path₂ ready hg hm hf).1 m' hm'
      exact alone.trans (e₁ m hm frame hf)
    · intro m hm frame hf
      have alone := (path₁.get?_closed path₂ ready hg hm hf).2
      exact alone.trans (e₁ m hm frame hf)
  | operate op =>
    refine ⟨List.pairwise_singleton _ _, List.forall_mem_singleton.2 ?_⟩
    intro frame hf
    cases op <;> cases hf
  | evaluate _ _ _ ih | invoke _ _ _ _ ih =>
    obtain ⟨h, e⟩ := ih ready hg
    exact ⟨pairwise_between (fun _ => nofun) h e, forall_mem_between nofun e nofun⟩
  | host _ _ _ _ =>
    exact ⟨pairwise_between (l := [_]) (fun _ => nofun) (List.pairwise_singleton _ _)
      (List.forall_mem_singleton.2 nofun),
      forall_mem_between (l := [_]) nofun (List.forall_mem_singleton.2 nofun) nofun⟩
  | refuse _ _ =>
    exact ⟨pairwise_between (l := []) (fun _ => nofun) .nil (List.forall_mem_nil _),
      forall_mem_between (l := []) nofun (List.forall_mem_nil _) nofun⟩
  | @frame scope s _ _ _ _ s₁ _ _ _ hk hp hf hs path ih =>
    have ready₁ := frame_ready ready.typed hk hp hf hs
    obtain ⟨h, e⟩ := ih ready₁ (hg.mono (frame_le hs))
    refine ⟨List.pairwise_cons.2 ⟨fun _ _ => nofun, pairwise_between (fun _ => nofun) h e⟩, ?_⟩
    refine List.forall_mem_cons.2 ⟨nofun, forall_mem_between nofun e ?_⟩
    rintro _ ⟨⟩
    rfl

end Contract

namespace Script

open Contract

/-- Frames are private through all of a run, however it ends: no field, argument, receiver or result
gives an environment other than the global scope away; from every state of the run, an evaluation of
any node in any environment spares all environments other than its own and the global scope; and the
frame of a call that has ended never changes again. -/
theorem history_private (script : Script) (depth : Nat) (report : Report) :
    (∀ m ∈ script.history depth report,
        m.state.heap.Private ∧ m.Private ∧
          ∀ chatty limit n env, m.state.heap.IsEnvironment env →
            m.state.heap.Spares (Eval.final (evaluate chatty limit n env m.state)).heap env) ∧
      (script.history depth report).Pairwise (fun m m' => m.Freezes m'.state.heap) ∧
      ∀ m ∈ script.history depth report, m.Freezes (interpret depth report script).state.heap := by
  have code : frames.Code .statement script.body := trivial
  constructor
  · intro m hm
    obtain ⟨typed, permits⟩ := permits_history depth report starts_frames code m hm
    have hprivate : m.state.heap.Private := fun r o ho b hb => ((typed.objects r o ho).2 b hb).2
    refine ⟨hprivate, permits.isPrivate, ?_⟩
    intro chatty limit n env henv r hr hne hg
    have ready : frames.Ready env m.state := ⟨typed, henv⟩
    have path := path_evaluate (p := .statement) (n := n) chatty limit ready trivial
    exact (path.get?_environment ready hr hne hg).2
  · have path := path_watch depth report starts_frames code
    have ready : frames.Ready scope (script.start report) := ready_start report starts_frames
    obtain ⟨h, e⟩ := path.freezes ready (script.heap_start report ▸ Global.scope_isEnvironment)
    have hstep : ∀ heap, Moment.Freezes ⟨.step, script.start report⟩ heap := by
      intro heap frame hf
      cases hf
    rw [history]
    split
    · rename_i hblock
      rw [interpret_eq_ending script depth report hblock, Report.heap_ending]
      exact ⟨List.pairwise_cons.2 ⟨fun _ _ => hstep _, h⟩, List.forall_mem_cons.2 ⟨hstep _, e⟩⟩
    · exact ⟨List.pairwise_singleton _ _, List.forall_mem_singleton.2 (hstep _)⟩

/-- A function that makes functions, and a call of one of these, which binds a variable of its own
under the name of the parameter around it. -/
def maker : Script :=
  let inner : Node := .function none [] (.block [.assign "n" (.literal (.int 1) 3) false 3] 3) 2
  ⟨.block
    [.assign "make" (.function none ["n"] (.block [.ret inner 2] 1) 1) true 1,
      .assign "f" (.call (.var "make" 4) [.literal (.int 3) 4] 4) true 4,
      .call (.var "f" 5) [] 5] 1⟩

/-- The frame of the call that made a function is closed when that function is called, and is the
same in the end. -/
theorem history_private_maker :
    ∃ m ∈ maker.history 9 .quiet, m.event = .closed ⟨14⟩ ∧ m.Private ∧
      (interpret 9 .quiet maker).state.heap.get? ⟨14⟩ = m.state.heap.get? ⟨14⟩ := by
  obtain ⟨h, _, e⟩ := history_private maker 9 .quiet
  have hm : ((maker.history 9 .quiet)[30]?).map (·.event) = some (.closed ⟨14⟩) := rfl
  obtain ⟨m, hm, hf⟩ := Option.map_eq_some_iff.1 hm
  have hm := List.mem_of_getElem? hm
  exact ⟨m, hm, hf, (h m hm).2.1, e m hm _ hf⟩

end Script

end Scriptlet

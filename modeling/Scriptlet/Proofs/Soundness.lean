import Scriptlet.Proofs.Path.Start

/-!
# Soundness of heaps

What a run of a script keeps of its heap, whatever the script: closures and environments refer to
environments, values refer to objects that are there, closures run code of the script, and the host
lends no routines but those of the global scope. Then an evaluation can end with few errors only:
failures of nodes of the script that suit their kind, faults of operands, too deep a nesting, and
the fault of something that is no expression.

Main definitions and statements:
* `Heap.Sound`, `Moment.Sound`: what is kept, for heaps and for what happens.
* `Failure.Kind.Suits`: the nodes that can be the site of a kind of failure.
* `Contract.sound`: the contract of a script, and `Contract.Path.arises`: its errors.
-/

namespace Scriptlet

/-- What an object refers to by its kind is an environment. -/
def Object.Kind.Grounded (h : Heap) : Object.Kind → Prop
  | .environment parent => ∀ r, parent = some r → h.IsEnvironment r
  | .closure _ captured => ∃ r, captured = .ref r ∧ h.IsEnvironment r
  | .plain | .primitive .. => True

/-- Closures are made in environments, around environments are environments, and what is in a field
is there. -/
structure Heap.Sound (h : Heap) : Prop where
  grounded : ∀ r k, h.kind? r = some k → k.Grounded h
  live : ∀ r o, h.get? r = some o → ∀ b ∈ o.fields, h.Live b.2

/-- Nodes are evaluated in environments, functions are invoked, and what is put to use is there. -/
def Moment.Sound (m : Moment) : Prop :=
  let h := m.state.heap
  match m.event with
  | .enter _ _ scope => h.IsEnvironment scope
  | .leave _ _ scope o => h.IsEnvironment scope ∧ ∀ v, o = .ok v → h.Live v
  | .invoke c =>
    h.function? (.ref c.callee) = some c.callee ∧ h.Live c.receiver ∧ ∀ v ∈ c.args, h.Live v
  | .answer _ o => ∀ v, o = .ok v → h.Live v
  | .opened frame => h.IsEnvironment frame
  | .closed frame => h.IsEnvironment frame
  | .use r => r.index < h.size
  | .step => True

/-- Whether a node can be the site of a failure of a kind. -/
def Failure.Kind.Suits : Failure.Kind → Node → Prop
  | .duplicateDeclaration, n => ∃ name value line, n = .assign name value true line
  | .typeFailure, n =>
    n.kind = .cond ∨ n.kind = .field ∨ n.kind = .setField ∨ n.kind = .method
  | .notCallable, n => n.kind = .call ∨ n.kind = .method
  | .arityMismatch, n => n.kind = .function ∨ n.kind = .call ∨ n.kind = .method
  | .general, _ => False

/-- The errors that an evaluation of nodes of a tree can end with. -/
inductive Error.Arises (root : Node) : Error → Prop where
  | failure {f p n} :
    root.Occurs p n →
    f.site = some n →
    f.kind.Suits n →
    Arises root (.failure f)
  | operands {f} :
    f.OfOperands →
    Arises root (.fault f)
  | notExpression {p n} :
    root.Occurs p n →
    ¬ n.IsExpression →
    Arises root (.fault .notExpression)
  | tooDeep : Arises root .tooDeep

/-- A cause that fits a node makes a failure that suits it. -/
lemma Failure.Cause.Fits.suits {cause : Failure.Cause} {n} (h : cause.Fits n) :
    cause.kind.Suits n := by
  cases cause with
  | duplicate name =>
    obtain ⟨value, line, rfl⟩ := h
    exact ⟨name, value, line, rfl⟩
  | notCallable shown => exact h
  | notObject shown => exact .inr h
  | notBoolean shown => exact .inl h
  | wrongCount | hostGaveUp | reported => exact h.elim

/-- What a primitive of the global scope does: it prints, or it is an operator for two operands. -/
lemma Global.primitives_cases {name host arity} (h : (name, host, arity) ∈ primitives) :
    host = .print ∧ arity = none ∨ ∃ op, host = .operator op ∧ arity = some 2 := by
  obtain h | h := List.mem_cons.1 h
  · cases h
    exact .inl ⟨rfl, rfl⟩
  · obtain ⟨op, _, ⟨⟩⟩ := List.mem_map.1 h
    exact .inr ⟨op, rfl, rfl⟩

/-- What is grounded stays grounded. -/
lemma Object.Kind.Grounded.mono {h h' : Heap} {k : Object.Kind} (hk : k.Grounded h)
    (hle : h ≤ h') : k.Grounded h' := by
  cases k with
  | environment parent => exact fun r hr => (hk r hr).mono hle
  | closure code captured =>
    obtain ⟨r, hr, henv⟩ := hk
    exact ⟨r, hr, henv.mono hle⟩
  | plain | primitive => exact trivial

namespace Contract

/-- The kinds of objects that a run of a script makes. -/
structure SoundKind (root : Node) (h : Heap) (k : Object.Kind) : Prop where
  grounded : k.Grounded h
  code : ∀ code captured, k = .closure code captured → ∃ p, root.Occurs p code.toNode
  host : ∀ name host arity, k = .primitive name host arity →
    (name, host, arity) ∈ Global.primitives

/-- The contract of all scripts. -/
def sound (root : Node) : Contract where
  Val h v := h.Live v
  Kind := SoundKind root
  Scope h r := h.IsEnvironment r
  Fit _ := True
  Code := root.Occurs
  Caller n := (∃ p, root.Occurs p n) ∧ (n.kind = .call ∨ n.kind = .method)
  Yield _ h v := h.Live v
  val_mono hle hv := hv.mono hle
  kind_mono hle hk := ⟨hk.grounded.mono hle, hk.code, hk.host⟩
  scope_mono := @Heap.IsEnvironment.mono
  fit_register _ _ := trivial
  fit_push _ _ _ := trivial
  val_atom := nofun
  val_plain _ := .next
  val_closure _ := .next
  kind_plain := ⟨trivial, nofun, nofun⟩
  kind_closure hc hs := by
    refine ⟨⟨_, rfl, hs⟩, ?_, nofun⟩
    rintro _ _ ⟨⟩
    exact ⟨_, hc⟩
  kind_frame hk hp := by
    obtain ⟨r, rfl, henv⟩ := hk.grounded
    obtain rfl := Option.some.inj (henv.scope?.symm.trans hp)
    refine ⟨?_, nofun, nofun⟩
    rintro _ ⟨⟩
    exact henv
  scope_frame _ := Heap.isEnvironment_next ..
  code_part hc hm := hc.part hm
  code_body hk := by
    obtain ⟨p, hc⟩ := hk.code _ _ rfl
    exact hc.part List.mem_cons_self
  caller_of_code hc hk := ⟨⟨_, hc⟩, hk⟩
  yield_val hv := hv
  yield_returning _ hv := hv
  val_operand hv := hv
  val_result hv := hv.result

variable {root : Node}

/-- A fresh global scope is as the contract of scripts says. -/
lemma starts_sound : (sound root).Starts := by
  refine ⟨typed_prepare trivial ⟨nofun, nofun, nofun⟩ (fun entry he => ⟨trivial, nofun, ?_⟩)
    fun _ => .of_lt, Global.scope_isEnvironment⟩
  rintro _ _ _ ⟨⟩
  exact he

/-- A heap as the contract of scripts says is sound. -/
lemma Typed.sound {h : Heap} (ht : (sound root).Typed h) : h.Sound :=
  ⟨fun _ _ hk => (ht.kind hk).grounded, fun r o ho => (ht.objects r o ho).2⟩

/-- A moment as the contract of scripts says is sound. -/
lemma Permits.sound {m} (hm : (sound root).Permits m) : m.Sound := by
  obtain ⟨event, s⟩ := m
  cases event with
  | enter p n scope => exact hm.2
  | leave p n scope o => exact hm.2
  | invoke c => exact ⟨hm.function, hm.receiver, hm.args⟩
  | answer c o => exact hm
  | opened frame => exact hm
  | closed frame => exact hm
  | use r =>
    obtain henv | hv := hm
    · exact henv.lt_size
    · exact hv r rfl
  | step => exact trivial

/-- An error that a rule ends with is one that can arise. -/
lemma Raises.arises {s e} (hr : (sound root).Raises s e) : e.Arises root := by
  cases hr with
  | tooDeep => exact .tooDeep
  | operands hf => exact .operands hf
  | notExpression hc hn => exact .notExpression hc hn
  | misuse hk hp =>
    obtain ⟨r, rfl, henv⟩ := hk.grounded
    exact nomatch henv.scope?.symm.trans hp
  | failure hc hf => exact .failure hc rfl hf.suits

/-- The error of a call that is refused is one that can arise. -/
lemma arises_of_refused {h : Heap} {c e} (ht : (sound root).Typed h) (hc : (sound root).Calls h c)
    (hr : c.Refused h e) : (e.locate c.site).Arises root := by
  cases hr with
  | closure hk _ =>
    obtain ⟨p, hcode⟩ := (ht.kind hk).code _ _ rfl
    exact .failure hcode rfl (.inl rfl)
  | primitive _ _ =>
    obtain ⟨⟨p, hsite⟩, hkind⟩ := hc.site
    exact .failure hsite rfl (.inr hkind)
  | unwritten _ _ _ => exact .operands .longInteger

/-- An error of a routine of the host is one that can arise. -/
lemma arises_of_ends {h : Heap} {c : Invocation} {name host arity s r e}
    (ht : (sound root).Typed h) (hk : h.kind? c.callee = some (.primitive name host arity))
    (hn : ∀ expected, arity = some expected → (c.args.length : Int) = expected)
    (ends : host.Ends c.args s r) (he : Eval.error? (Eval.outcome r) = some e) :
    (e.locate c.site).Arises root := by
  have hprim := Global.primitives_cases ((ht.kind hk).host _ _ _ rfl)
  cases ends with
  | answer _ _ => cases he
  | fault _ hf =>
    cases he
    exact .operands hf
  | refuse hr =>
    -- printing takes any number, and an operator that is called has been given two
    obtain ⟨rfl, rfl⟩ | ⟨op, rfl, rfl⟩ := hprim
    · cases hr
    · cases hr with
      | operator h2 => exact absurd (Int.ofNat.inj (hn 2 rfl)) h2
  | giveUp hf =>
    subst hf
    obtain ⟨⟨⟩, _⟩ | ⟨_, ⟨⟩, _⟩ := hprim

/-- The error at the end of a path is one that can arise. -/
theorem Path.arises {chatty scope s l e s' err} (path : (sound root).Path chatty scope s l e s')
    (ready : (sound root).Ready scope s) (he : e = some err) : err.Arises root := by
  induction path with
  | done | operate _ => cases he
  | append path₁ _ _ ih => exact ih (path₁.ready ready) he
  | raise hr =>
    cases he
    exact hr.arises
  | evaluate _ _ _ ih | invoke _ _ _ _ ih => exact ih ready he
  | frame hk hp hv hs _ ih => exact ih (frame_ready ready.typed hk hp hv hs) he
  | host _ hk hn hr =>
    obtain ⟨_, herr, rfl⟩ := Option.map_eq_some_iff.1 he
    exact arises_of_ends ready.typed hk hn (hr ▸ Eval.runHost_ends ..) herr
  | refuse hc hr =>
    cases he
    exact arises_of_refused ready.typed hc hr

end Contract

end Scriptlet

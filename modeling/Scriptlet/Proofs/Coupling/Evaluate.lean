import Scriptlet.Proofs.Coupling

/-!
# Evaluation keeps two runs side by side

Matching nodes, evaluated in corresponding scopes, end alike (`Coupling.evaluate`), and so do the
invocations of corresponding functions (`Coupling.invoke`). There is one lemma for each rule of the
evaluator, with the evaluation of the nodes inside as a hypothesis; the limit on the depth then is
the induction.
-/

namespace Scriptlet

/-- The trace of a print is cut short when a value has no plain text either. -/
lemma Heap.printTrace_fault_iff {h : Heap} {args f} :
    (h.printTrace args).fault = some f ↔ h.textAll args = .error f := by
  rw [← quotedAll_eq_error_iff, printTrace]
  cases h.quotedAll args <;> simp [Except.map, Printout.line]

/-- The state with the trace of a print on the console, if that is asked for. -/
def State.traced (s : State) (chatty : Bool) (args : List Value) : State :=
  { s with chatter := s.chatter ++ if chatty then (s.heap.printTrace args).text else "" }

namespace Eval

variable {s : State} {chatty : Bool} {args : List Value}

/-- A print is traced by putting its trace on the console. -/
lemma tracePrint_true (args) (s : State) :
    tracePrint true args s = chat (s.heap.printTrace args) s :=
  rfl

/-- The trace of a print whose arguments have texts goes through. -/
lemma tracePrint_of_ok {texts} (ht : s.heap.textAll args = .ok texts) :
    tracePrint chatty args s = .ok () (s.traced chatty args) := by
  cases chatty with
  | false => simp [tracePrint, State.traced, pure_run]
  | true =>
    have hfault : (s.heap.printTrace args).fault = none := by
      refine Option.eq_none_iff_forall_ne_some.2 fun f hf => ?_
      cases ht.symm.trans (Heap.printTrace_fault_iff.1 hf)
    rw [tracePrint_true, chat, hfault]
    rfl

/-- A print whose arguments have texts writes them in one line. -/
lemma print_of_ok {texts} (ht : s.heap.textAll args = .ok texts) :
    print chatty args s =
      .ok .undefined
        { s.traced chatty args with
          writes := s.writes ++ [String.intercalate " " texts ++ "\n"] } := by
  have hread : read (fun h => h.textAll args) (s.traced chatty args) =
      .ok texts (s.traced chatty args) := by
    simp only [read, State.traced, ht]
  rw [print, bind_run_of_ok (tracePrint_of_ok ht), bind_run_of_ok hread]
  rfl

/-- A print one of whose arguments has no text writes nothing. -/
lemma print_of_error {f} (ht : s.heap.textAll args = .error f) :
    print chatty args s = .error (.fault f) (s.traced chatty args) := by
  cases chatty with
  | false =>
    have hread : read (fun h => h.textAll args) s = .error (.fault f) s := by
      simp only [read, ht]
    have htraced : s.traced false args = s := by simp [State.traced]
    rw [print, bind_run_of_ok (x := tracePrint false args) (s := s) rfl, bind_run_of_error hread,
      htraced]
  | true =>
    have htrace : tracePrint true args s = .error (.fault f) (s.traced true args) := by
      rw [tracePrint_true, chat, Heap.printTrace_fault_iff.2 ht]
      rfl
    rw [print, bind_run_of_error htrace]

end Eval

end Scriptlet

namespace Scriptlet.Coupling

open Eval

variable {c : Coupling} {s s' : State} {env env' : Ref}

/-- Prints of values that correspond run alike. -/
lemma runs_print {args args'} (states : c.States s s')
    (hargs : List.Forall₂ (c.upTo s).Values args args') :
    c.Runs (print c.chatty args) (print c.chatty' args') s s' Correspondence.Values := by
  have htrace : s.heap.printTrace args = s'.heap.printTrace args' := by
    rw [Heap.printTrace, Heap.printTrace, states.between.quotedAll hargs]
  have traced : c.States (s.traced c.chatty args) (s'.traced c.chatty' args') := by
    rw [State.traced, State.traced, htrace]
    exact states.chat _
  have htext := states.between.textAll hargs
  cases ht : s.heap.textAll args with
  | ok texts =>
    rw [Runs, print_of_ok ht, print_of_ok (htext.symm.trans ht)]
    exact .ok (Nat.le_refl _) (traced.write _) .atom
  | error f =>
    rw [Runs, print_of_error ht, print_of_error (htext.symm.trans ht)]
    exact .error (Nat.le_refl _) traced .fault

/-- Host routines run alike on values that correspond. -/
lemma runs_host (host : Host) {args args'} (states : c.States s s')
    (hargs : List.Forall₂ (c.upTo s).Values args args') :
    c.Runs (runHost c.chatty host args) (runHost c.chatty' host args') s s'
      Correspondence.Values := by
  cases host with
  | operator op =>
    cases hargs with
    | nil => exact .fault states
    | cons hv hrest =>
      cases hrest with
      | nil => exact .fault states
      | cons hw hrest =>
        cases hrest with
        | nil =>
          simp only [runHost]
          exact .answer states (states.between.apply hv hw) fun _ => Heap.apply_ok
        | cons _ hrest =>
          simp only [runHost, List.length_cons, hrest.length_eq]
          exact .fault states
  | print => exact runs_print states hargs
  | count =>
    simp only [runHost, hargs.length_eq]
    exact .pure states .atom
  | last =>
    have hrev := List.rel_reverse hargs
    simp only [runHost, List.getLast?_eq_head?_reverse]
    generalize args.reverse = vs at hrev
    generalize args'.reverse = vs' at hrev
    cases hrev with
    | nil => exact .fault states
    | cons hv _ => exact .pure states hv
  | fail => exact .fail states .none

/-- Values that correspond pass for objects alike. -/
lemma runs_asObject {v v' site site'} (states : c.States s s') (hv : (c.upTo s).Values v v')
    (hsite : c.nodes site site') :
    c.Runs (asObject v site) (asObject v' site') s s' Correspondence.refs := by
  rw [asObject, asObject]
  refine .read_bind rfl rfl ?_
  have hr := states.between.object? hv
  generalize s.heap.object? v = r at hr
  generalize s'.heap.object? v' = r' at hr
  cases hr with
  | none => exact .show_fail .notObject states hv hsite
  | some hr => exact .pure states hr

/-- A name is free in a scope exactly if it is in one that corresponds. -/
lemma runs_demandFree {declares name site site'} (states : c.States s s')
    (henv : (c.upTo s).refs env env') (hsite : c.nodes site site') :
    c.Runs (demandFree declares env name site) (demandFree declares env' name site') s s'
      fun _ _ _ => True := by
  cases declares with
  | false => exact .pure states trivial
  | true =>
    refine (Runs.lookup states henv name).bind fun v v' t t' _ states₁ hv => ?_
    simp only [hv.eq_undefined_iff]
    split
    · exact .pure states₁ trivial
    · exact .fail states₁ (.some hsite)

/-- A function is bound under its name alike in scopes that correspond. -/
lemma runs_registerNamed {name : Option String} {f f'} (states : c.States s s')
    (henv : (c.upTo s).refs env env') (hf : (c.upTo s).refs f f') :
    c.Runs (registerNamed env name f) (registerNamed env' name f') s s' fun _ _ _ => True := by
  cases name with
  | none => exact .pure states trivial
  | some name => exact .register states henv (.ref hf)

section Rules

variable {self self' : Evaluator}
  (hself : ∀ n n' env env' s s', c.States s s' → c.nodes n n' → (c.upTo s).refs env env' →
    c.Runs (self n env) (self' n' env') s s' Correspondence.Values)
include hself

/-- Instructions that correspond run alike. -/
lemma runs_instructions {body body'} (hbody : List.Forall₂ c.nodes body body')
    (states : c.States s s') (henv : (c.upTo s).refs env env') :
    c.Runs (instructions self env body) (instructions self' env' body') s s'
      Correspondence.Values := by
  induction hbody generalizing s s' with
  | nil => exact .pure states .atom
  | cons hn _ ih =>
    refine (hself _ _ _ _ _ _ states hn henv).bind fun v v' t t' hle states₁ hv => ?_
    have hrest := ih states₁ (hle.1 _ _ henv)
    cases hv with
    | returning hk hv => exact .pure states₁ (.returning hk hv)
    | atom | ref => exact hrest

/-- Arguments that correspond are evaluated alike. -/
lemma runs_arguments {args args'} (hargs : List.Forall₂ c.nodes args args')
    (states : c.States s s') (henv : (c.upTo s).refs env env') :
    c.Runs (arguments self env args) (arguments self' env' args') s s'
      fun C => List.Forall₂ C.Values := by
  induction hargs generalizing s s' with
  | nil => exact .pure states .nil
  | cons hn _ ih =>
    refine (hself _ _ _ _ _ _ states hn henv).bind fun v v' t t' hle states₁ hv => ?_
    refine (ih states₁ (hle.1 _ _ henv)).bind fun vs vs' u u' hle₁ states₂ hvs => ?_
    exact .pure states₂ (.cons (hv.mono hle₁) hvs)

/-- Initializers that correspond run alike on objects that do. -/
lemma runs_initializers {object object' fields fields'}
    (hfields : List.Forall₂ (fun f f' => f.1 = f'.1 ∧ c.nodes f.2 f'.2) fields fields')
    (states : c.States s s') (henv : (c.upTo s).refs env env')
    (hobject : (c.upTo s).refs object object') :
    c.Runs (initializers self env object fields) (initializers self' env' object' fields') s s'
      fun _ _ _ => True := by
  induction hfields generalizing s s' with
  | nil => exact .pure states trivial
  | @cons field field' _ _ hf _ ih =>
    obtain ⟨name, init⟩ := field
    obtain ⟨name', init'⟩ := field'
    obtain ⟨rfl, hn⟩ := hf
    refine (hself _ _ _ _ _ _ states hn henv).bind fun v v' t t' hle states₁ hv => ?_
    refine (Runs.register states₁ (hle.1 _ _ hobject) hv).bind fun _ _ u u' hle₁ states₂ _ => ?_
    exact ih states₂ (hle₁.1 _ _ (hle.1 _ _ henv)) (hle₁.1 _ _ (hle.1 _ _ hobject))

/-- Bodies that correspond are entered alike with values that correspond. -/
lemma runs_enter {code code' captured captured' receiver receiver' args args'}
    (states : c.States s s') (hcode : c.nodes code.toNode code'.toNode)
    (hcaptured : (c.upTo s).Values captured captured')
    (hreceiver : (c.upTo s).Values receiver receiver')
    (hargs : List.Forall₂ (c.upTo s).Values args args') :
    c.Runs (enter self code captured receiver args) (enter self' code' captured' receiver' args')
      s s' Correspondence.Values := by
  obtain ⟨htitle, hparams, hbody⟩ := Correspondence.code_of_nodes hcode
  rw [enter, enter, ← hargs.length_eq, ← hparams, ← htitle]
  split
  · refine .read_bind rfl rfl ?_
    have hscope := states.between.scope? hcaptured
    generalize s.heap.scope? captured = parent at hscope
    generalize s'.heap.scope? captured' = parent' at hscope
    cases hscope with
    | none => exact .fault states
    | some hparent =>
      have hfields := Correspondence.Entries.bindings hparams hreceiver hargs
      refine (Runs.new states ⟨?_, hfields⟩).bind fun frame frame' t t' _ states₁ hframe => ?_
      · cases hparent with
        | none => exact .outermost
        | some hp =>
          obtain ⟨hlt, hlt'⟩ := states.between.lt_size hp
          exact .environment hp hlt hlt'
      · refine (hself _ _ _ _ _ _ states₁ hbody hframe).bind fun v v' u u' _ states₂ hv => ?_
        exact .pure states₂ hv.result
  · exact .fail states (.some hcode)

/-- Functions that correspond are invoked alike with values that correspond. -/
lemma runs_invoke {callee callee' receiver receiver' args args'} (states : c.States s s')
    (hcallee : (c.upTo s).refs callee callee') (hreceiver : (c.upTo s).Values receiver receiver')
    (hargs : List.Forall₂ (c.upTo s).Values args args') :
    c.Runs (Eval.invoke c.chatty self callee receiver args)
      (Eval.invoke c.chatty' self' callee' receiver' args') s s' Correspondence.Values := by
  obtain ⟨k, k', hk, hk', alike⟩ := states.between.kind? hcallee
  have hshown : c.Runs
      (do
        let shown ← read fun h => h.objectText callee
        fail (.notCallable shown) none)
      (do
        let shown ← read fun h => h.objectText callee'
        fail (.notCallable shown) none) s s' Correspondence.Values := by
    refine (Runs.read states (states.between.objectText hcallee)).bind
      fun shown shown' t t' _ states₁ heq => ?_
    subst heq
    exact .fail states₁ .none
  refine .read_bind (congrArg _ hk) (congrArg _ hk') ?_
  cases alike with
  | closure hcode hcaptured => exact runs_enter hself states hcode hcaptured hreceiver hargs
  | @primitive name host arity =>
    have hhost := runs_host host states hargs
    cases arity with
    | none => exact hhost
    | some expected =>
      simp only [← hargs.length_eq]
      split
      · exact hhost
      · exact .refuse states
  | plain | outermost | environment => exact hshown

/-- Calls that correspond run alike. -/
lemma runs_call {callee callee' receiver receiver' args args' site site'} (states : c.States s s')
    (henv : (c.upTo s).refs env env') (hsite : c.nodes site site')
    (hreceiver : (c.upTo s).Values receiver receiver') (hcallee : (c.upTo s).Values callee callee')
    (hargs : List.Forall₂ c.nodes args args') :
    c.Runs (call c.chatty self env receiver callee args site)
      (call c.chatty' self' env' receiver' callee' args' site') s s' Correspondence.Values := by
  rw [call, call]
  refine .read_bind rfl rfl ?_
  have hf := states.between.function? hcallee
  generalize s.heap.function? callee = f at hf
  generalize s'.heap.function? callee' = f' at hf
  cases hf with
  | none => exact .show_fail .notCallable states hcallee hsite
  | some hf =>
    refine (runs_arguments hself hargs states henv).bind fun vs vs' t t' hle states₁ hvs => ?_
    exact .located
      (runs_invoke hself states₁ (hle.1 _ _ hf) (hreceiver.mono hle) hvs) hsite

/-- Nodes that correspond are evaluated alike if their parts are. -/
lemma runs_node {n n'} (states : c.States s s') (hn : c.nodes n n')
    (henv : (c.upTo s).refs env env') :
    c.Runs (node c.chatty self n env) (node c.chatty' self' n' env') s s' Correspondence.Values := by
  cases c.matches_of_nodes hn with
  | block hbody => exact runs_instructions hself hbody states henv
  | literal => exact .pure states .atom
  | call hcallee hargs =>
    refine (hself _ _ _ _ _ _ states hcallee henv).bind fun f f' t t' hle states₁ hf => ?_
    exact runs_call hself states₁ (hle.1 _ _ henv) hn .atom hf hargs
  | var => exact .lookup states henv _
  | assign hvalue =>
    refine (runs_demandFree states henv hn).bind fun _ _ t t' hle states₁ _ => ?_
    have henv₁ := hle.1 _ _ henv
    refine (hself _ _ _ _ _ _ states₁ hvalue henv₁).bind fun v v' u u' hle₁ states₂ hv => ?_
    refine (Runs.register states₂ (hle₁.1 _ _ henv₁) hv).bind fun _ _ _ _ _ states₃ _ => ?_
    exact .pure states₃ .atom
  | function hbody =>
    refine (Runs.new states ⟨.closure hn (.ref henv), .nil⟩).bind
      fun f f' t t' hle states₁ hf => ?_
    refine (runs_registerNamed states₁ (hle.1 _ _ henv) hf).bind
      fun _ _ u u' hle₁ states₂ _ => ?_
    exact .pure states₂ (.ref (hle₁.1 _ _ hf))
  | ret hvalue =>
    refine (hself _ _ _ _ _ _ states hvalue henv).bind fun v v' t t' _ states₁ hv => ?_
    exact .signal states₁ hv
  | @cond test test' yes yes' no no' line line' htest hyes hno =>
    refine (hself _ _ _ _ _ _ states htest henv).bind fun v v' t t' hle states₁ hv => ?_
    have henv₁ := hle.1 _ _ henv
    -- anything but an integer is shown in a failure
    have hshown : c.Runs
        (do
          let shown ← read fun h => h.text v
          fail (.notBoolean shown) (some (.cond test yes no line)))
        (do
          let shown ← read fun h => h.text v'
          fail (.notBoolean shown) (some (.cond test' yes' no' line'))) t t' Correspondence.Values :=
      .show_fail .notBoolean states₁ hv hn
    cases hv with
    | @atom a =>
      cases a with
      | int i =>
        refine hself _ _ _ _ _ _ states₁ ?_ henv₁
        split
        · exact hyes
        · exact hno
      | str | bool | null | undefined => exact hshown
    | ref | returning => exact hshown
  | object hfields =>
    refine (Runs.new states ⟨.plain, .nil⟩).bind fun r r' t t' hle states₁ hr => ?_
    refine (runs_initializers hself hfields states₁ (hle.1 _ _ henv) hr).bind
      fun _ _ u u' hle₁ states₂ _ => ?_
    exact .pure states₂ (.ref (hle₁.1 _ _ hr))
  | field hreceiver =>
    refine (hself _ _ _ _ _ _ states hreceiver henv).bind fun v v' t t' _ states₁ hv => ?_
    refine (runs_asObject states₁ hv hn).bind fun r r' u u' _ states₂ hr => ?_
    exact .lookup states₂ hr _
  | setField hreceiver hvalue =>
    refine (hself _ _ _ _ _ _ states hreceiver henv).bind fun v v' t t' hle states₁ hv => ?_
    refine (runs_asObject states₁ hv hn).bind fun r r' u u' hle₁ states₂ hr => ?_
    have henv₂ := hle₁.1 _ _ (hle.1 _ _ henv)
    refine (hself _ _ _ _ _ _ states₂ hvalue henv₂).bind fun w w' _ _ hle₂ states₃ hw => ?_
    refine (Runs.register states₃ (hle₂.1 _ _ hr) hw).bind fun _ _ _ _ _ states₄ _ => ?_
    exact .pure states₄ .atom
  | method hreceiver hargs =>
    refine (hself _ _ _ _ _ _ states hreceiver henv).bind fun v v' t t' hle states₁ hv => ?_
    refine (runs_asObject states₁ hv hn).bind fun r r' u u' hle₁ states₂ hr => ?_
    refine (Runs.lookup states₂ hr _).bind fun f f' w w' hle₂ states₃ hf => ?_
    have henv₃ := hle₂.1 _ _ (hle₁.1 _ _ (hle.1 _ _ henv))
    exact runs_call hself states₃ henv₃ hn (.ref (hle₂.1 _ _ hr)) hf hargs
  | script => exact .fault states
  | absent => exact .fault states

end Rules

/-- Matching nodes end alike in corresponding scopes. -/
theorem evaluate (depth : Nat) {n n' env env'} (states : c.States s s') (hn : c.nodes n n')
    (henv : (c.upTo s).refs env env') :
    c.Runs (Scriptlet.evaluate c.chatty depth n env) (Scriptlet.evaluate c.chatty' depth n' env')
      s s' Correspondence.Values := by
  induction depth generalizing n n' env env' s s' with
  | zero => exact .error (Nat.le_refl _) states .tooDeep
  | succ depth ih =>
    exact runs_node (fun _ _ _ _ _ _ states hn henv => ih states hn henv) states hn henv

/-- Corresponding functions end alike on corresponding receivers and arguments. -/
theorem invoke (depth : Nat) {callee callee' receiver receiver' args args'}
    (states : c.States s s') (hcallee : (c.upTo s).refs callee callee')
    (hreceiver : (c.upTo s).Values receiver receiver')
    (hargs : List.Forall₂ (c.upTo s).Values args args') :
    c.Runs (Eval.invoke c.chatty (Scriptlet.evaluate c.chatty depth) callee receiver args)
      (Eval.invoke c.chatty' (Scriptlet.evaluate c.chatty' depth) callee' receiver' args')
      s s' Correspondence.Values :=
  runs_invoke (fun _ _ _ _ _ _ states hn henv => evaluate depth states hn henv) states hcallee
    hreceiver hargs

end Scriptlet.Coupling

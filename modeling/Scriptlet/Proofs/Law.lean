import Scriptlet.Proofs.Eval.Operations

/-!
# Laws of operations

Whatever evaluation does to the state, it does by a few operations: it makes plain objects, closures
and frames, binds fields, makes signals, writes to the sink and puts text on the console. A law is a
relation between an earlier and a later state that each of these operations keeps. Every evaluation
then keeps it as well, however it ends (`State.Law.evaluate`, `State.Law.invoke`).

The limit on the depth only cuts an evaluation short: within a greater limit the same evaluation
ends alike, or it goes on from a state that the shorter one has come to (`State.Law.cut_evaluate`).
How the two states are related is again a matter of laws.
-/

namespace Scriptlet

/-- A relation between an earlier and a later state that all operations of evaluation keep. -/
structure State.Law (R : State → State → Prop) : Prop where
  refl : ∀ s, R s s
  trans : ∀ {s t u}, R s t → R t u → R s u
  register : ∀ (s : State) r name value, R s { s with heap := s.heap.register r name value }
  plain : ∀ s : State, R s { s with heap := s.heap.push ⟨.plain, []⟩ }
  closure : ∀ (s : State) code env,
    R s { s with heap := s.heap.push ⟨.closure code (.ref env), []⟩ }
  frame : ∀ (s : State) (code : Function) captured parent receiver args,
    s.heap.scope? captured = some parent →
    R s { s with heap := s.heap.push ⟨.environment parent, code.bindings receiver args⟩ }
  signal : ∀ s : State, R s { s with signals := s.signals + 1 }
  write : ∀ (s : State) text, R s { s with writes := s.writes ++ [text] }
  chat : ∀ (s : State) text, R s { s with chatter := s.chatter ++ text }

namespace Eval

variable {R : State → State → Prop} {s : State} {α β : Type}

/-- A computation is another one cut short, from a state: they end alike, or the one ends too deep in
a state from which the other goes on. What the other does keeps the law. -/
structure Cut (R : State → State → Prop) (x x' : Eval α) (s : State) : Prop where
  keeps : R s (final (x' s))
  cut : x s = x' s ∨ ∃ t, x s = .error .tooDeep t ∧ R t (final (x' s))

namespace Cut

/-- A computation that keeps the law is itself, not cut at all. -/
lemma self {x : Eval α} (h : R s (final (x s))) : Cut R x x s :=
  ⟨h, .inl rfl⟩

/-- To give failures a site does not matter to what is cut. -/
lemma located {x x' : Eval α} (hx : Cut R x x' s) (site : Node) :
    Cut R (x.located site) (x'.located site) s := by
  obtain ⟨keeps, cut⟩ := hx
  rw [← final_located x' site] at keeps cut
  refine ⟨keeps, ?_⟩
  obtain h | ⟨t, h, ht⟩ := cut
  · left
    rw [Eval.located, Eval.located, h]
  · right
    refine ⟨t, ?_, ht⟩
    rw [Eval.located, h]

section Law

variable (law : State.Law R)
include law

/-- A computation that leaves the state as it is keeps every law. -/
lemma idle {x : Eval α} (h : final (x s) = s) : Cut R x x s :=
  .self (h.symm ▸ law.refl s)

/-- A value by itself keeps every law. -/
lemma pure (a : α) : Cut R (pure a) (pure a) s :=
  .idle law rfl

/-- A failure keeps every law. -/
lemma fail {cause site} : Cut R (fail cause site : Eval α) (fail cause site) s :=
  .idle law rfl

/-- A fault keeps every law. -/
lemma fault {f} : Cut R (fault f : Eval α) (fault f) s :=
  .idle law rfl

/-- Looking up a name keeps every law. -/
lemma lookup {r name} : Cut R (lookup r name) (lookup r name) s :=
  .idle law rfl

/-- Reading the heap keeps every law. -/
lemma read (f : Heap → Except Fault α) : Cut R (read f) (read f) s := by
  refine .idle law ?_
  rw [Eval.read]
  split <;> rfl

/-- One computation after another. The second one starts where the first of the longer run ended. -/
lemma bind {x x' : Eval α} {f f' : α → Eval β} (hx : Cut R x x' s)
    (hf : ∀ a t, x' s = .ok a t → Cut R (f a) (f' a) t) : Cut R (x >>= f) (x' >>= f') s := by
  obtain ⟨keeps, cut⟩ := hx
  cases hx' : x' s with
  | ok a t =>
    rw [hx'] at keeps cut
    obtain ⟨keeps', cut'⟩ := hf a t hx'
    rw [← bind_run_of_ok hx' f'] at keeps' cut'
    refine ⟨law.trans keeps keeps', ?_⟩
    obtain h | ⟨u, h, hu⟩ := cut
    · rw [bind_run_of_ok h]
      exact cut'
    · rw [bind_run_of_error h]
      exact .inr ⟨u, rfl, law.trans hu keeps'⟩
  | error e t =>
    rw [hx'] at keeps cut
    have h' := bind_run_of_error hx' f'
    refine ⟨h' ▸ keeps, ?_⟩
    obtain h | ⟨u, h, hu⟩ := cut
    · rw [bind_run_of_error h, h']
      exact .inl rfl
    · rw [bind_run_of_error h, h']
      exact .inr ⟨u, rfl, hu⟩

/-- After what only looks at the heap, the next computation starts where that did. -/
lemma read_bind {g : Heap → Except Fault α} {f f' : α → Eval β}
    (hf : ∀ a, g s.heap = .ok a → Cut R (f a) (f' a) s) :
    Cut R (Eval.read g >>= f) (Eval.read g >>= f') s := by
  refine .bind law (.read law g) fun a t h => ?_
  cases hg : g s.heap with
  | ok b =>
    simp only [Eval.read, hg] at h
    cases h
    exact hf _ hg
  | error e =>
    simp only [Eval.read, hg] at h
    cases h

/-- Showing a value in a failure keeps every law. -/
lemma show_fail (v : Value) (cause : String → Failure.Cause) (site) :
    Cut R
      (do
        let shown ← Eval.read fun h => h.text v
        Eval.fail (cause shown) site : Eval α)
      (do
        let shown ← Eval.read fun h => h.text v
        Eval.fail (cause shown) site) s :=
  .read_bind law fun _ _ => .fail law

/-- A primitive that refuses a call only looks at how many arguments it asks for. -/
lemma refuse (name expected got) :
    Cut R (refuse name expected got) (refuse name expected got) s :=
  .read_bind law fun _ _ => .fail law

/-- Putting text on the console keeps the law. -/
lemma chat (out : Printout) : Cut R (chat out) (chat out) s := by
  refine .self ?_
  rw [Eval.chat]
  split <;> exact law.chat s out.text

/-- Binding a field keeps the law. -/
lemma register {r name value} : Cut R (register r name value) (register r name value) s :=
  .self (law.register s r name value)

/-- Printing keeps the law. -/
lemma print (chatty args) : Cut R (print chatty args) (print chatty args) s := by
  refine .bind law ?_ fun _ t _ => ?_
  · rw [tracePrint]
    split
    · exact .read_bind law fun trace _ => .chat law trace
    · exact .pure law ()
  · refine .read_bind law fun texts _ => ?_
    exact .bind law (.self (law.write t _)) fun _ _ _ => .pure law _

/-- A host routine keeps the law. -/
lemma runHost (chatty host args) : Cut R (runHost chatty host args) (runHost chatty host args) s := by
  cases host with
  | operator op =>
    match args with
    | [v, w] =>
      simp only [Eval.runHost]
      exact .read law _
    | [] | [_] | _ :: _ :: _ :: _ => exact .fault law
  | print => exact .print law chatty args
  | count => exact .pure law _
  | last =>
    rw [Eval.runHost]
    split
    · exact .pure law _
    · exact .fault law
  | fail => exact .fail law

/-- Asking for an object keeps every law. -/
lemma asObject (v site) : Cut R (asObject v site) (asObject v site) s := by
  refine .read_bind law fun r _ => ?_
  cases r with
  | some r => exact .pure law r
  | none => exact .show_fail law v .notObject (some site)

/-- Asking for a free name keeps every law. -/
lemma demandFree (declares env name site) :
    Cut R (demandFree declares env name site) (demandFree declares env name site) s := by
  rw [Eval.demandFree]
  split
  · refine .bind law (.lookup law) fun bound _ _ => ?_
    split
    · exact .pure law ()
    · exact .fail law
  · exact .pure law ()

/-- Binding a function under its name keeps the law. -/
lemma registerNamed (env name f) : Cut R (registerNamed env name f) (registerNamed env name f) s := by
  cases name with
  | some name => exact .register law
  | none => exact .pure law ()

section Rules

variable {self self' : Evaluator} (hself : ∀ n env s, Cut R (self n env) (self' n env) s)
include hself

/-- Instructions are cut where one of them is. -/
lemma instructions (env) (body : List Node) :
    Cut R (instructions self env body) (instructions self' env body) s := by
  induction body generalizing s with
  | nil => exact .pure law _
  | cons first rest ih =>
    refine .bind law (hself first env s) fun v t _ => ?_
    cases v with
    | returning signal v => exact .pure law _
    | atom | ref => exact ih

/-- Arguments are cut where one of them is. -/
lemma arguments (env) (args : List Node) :
    Cut R (arguments self env args) (arguments self' env args) s := by
  induction args generalizing s with
  | nil => exact .pure law _
  | cons first rest ih =>
    refine .bind law (hself first env s) fun v t _ => ?_
    exact .bind law ih fun vs _ _ => .pure law _

/-- Initializers are cut where one of them is. -/
lemma initializers (env object) (fields : List (String × Node)) :
    Cut R (initializers self env object fields) (initializers self' env object fields) s := by
  induction fields generalizing s with
  | nil => exact .pure law _
  | cons field rest ih =>
    obtain ⟨name, init⟩ := field
    refine .bind law (hself init env s) fun v t _ => ?_
    exact .bind law (.register law) fun _ _ _ => ih

/-- A call of a closure is cut where its body is. -/
lemma enter (code captured receiver args) :
    Cut R (enter self code captured receiver args) (enter self' code captured receiver args) s := by
  rw [Eval.enter, Eval.enter]
  split
  · refine .read_bind law fun parent hp => ?_
    cases parent with
    | none => exact .fault law
    | some parent =>
      have hframe := law.frame s code captured parent receiver args (Except.ok.inj hp)
      refine .bind law (.self hframe) fun frame t _ => ?_
      exact .bind law (hself code.body frame t) fun v _ _ => .pure law v.result
  · exact .fail law

/-- An invocation is cut where the body of the function is. -/
lemma invoke (chatty callee receiver args) :
    Cut R (invoke chatty self callee receiver args) (invoke chatty self' callee receiver args) s := by
  refine .read_bind law fun kind _ => ?_
  have hshown : Cut R
      (do
        let shown ← Eval.read fun h => h.objectText callee
        Eval.fail (.notCallable shown) none : Eval Value)
      (do
        let shown ← Eval.read fun h => h.objectText callee
        Eval.fail (.notCallable shown) none) s :=
    .read_bind law fun _ _ => .fail law
  cases kind with
  | none => exact hshown
  | some kind =>
    cases kind with
    | closure code captured => exact .enter law hself code captured receiver args
    | primitive name host arity =>
      cases arity with
      | none => exact .runHost law chatty host args
      | some expected =>
        dsimp only
        split
        · exact .runHost law chatty host args
        · exact .refuse law name expected args.length
    | plain | environment => exact hshown

/-- A call is cut where one of its arguments is, or the body of the function. -/
lemma call (chatty env receiver callee args site) :
    Cut R (call chatty self env receiver callee args site)
      (call chatty self' env receiver callee args site) s := by
  refine .read_bind law fun f _ => ?_
  cases f with
  | none => exact .show_fail law callee .notCallable (some site)
  | some f =>
    refine .bind law (.arguments law hself env args) fun vs _ _ => ?_
    exact .located (.invoke law hself chatty f receiver vs) site

/-- A rule that evaluates the nodes inside cut short is cut short itself. -/
lemma node (chatty n env) : Cut R (node chatty self n env) (node chatty self' n env) s := by
  cases n with
  | block body line => exact .instructions law hself env body
  | literal a line => exact .pure law _
  | call callee args line =>
    refine .bind law (hself callee env s) fun f _ _ => ?_
    exact .call law hself chatty env .undefined f args _
  | var name line => exact .lookup law
  | assign name value declares line =>
    refine .bind law (.demandFree law declares env name _) fun _ t _ => ?_
    refine .bind law (hself value env t) fun v _ _ => ?_
    exact .bind law (.register law) fun _ _ _ => .pure law _
  | function name params body line =>
    refine .bind law (.self (law.closure s _ env)) fun f _ _ => ?_
    exact .bind law (.registerNamed law env name f) fun _ _ _ => .pure law _
  | ret value line =>
    refine .bind law (hself value env s) fun v t _ => ?_
    exact .self (law.signal t)
  | cond test yes no line =>
    refine .bind law (hself test env s) fun v t _ => ?_
    cases v with
    | atom a =>
      cases a with
      | int i => exact hself _ env t
      | str | bool | null | undefined => exact .show_fail law _ .notBoolean _
    | ref | returning => exact .show_fail law _ .notBoolean _
  | object fields line =>
    refine .bind law (.self (law.plain s)) fun object _ _ => ?_
    exact .bind law (.initializers law hself env object fields) fun _ _ _ => .pure law _
  | field receiver name line =>
    refine .bind law (hself receiver env s) fun v _ _ => ?_
    exact .bind law (.asObject law v _) fun owner _ _ => .lookup law
  | setField receiver name value line =>
    refine .bind law (hself receiver env s) fun v _ _ => ?_
    refine .bind law (.asObject law v _) fun owner t _ => ?_
    refine .bind law (hself value env t) fun w _ _ => ?_
    exact .bind law (.register law) fun _ _ _ => .pure law _
  | method receiver name args line =>
    refine .bind law (hself receiver env s) fun v _ _ => ?_
    refine .bind law (.asObject law v _) fun owner _ _ => ?_
    refine .bind law (.lookup law) fun f _ _ => ?_
    exact .call law hself chatty env (.ref owner) f args _
  | script | absent => exact .fault law

end Rules

end Law

end Cut

end Eval

namespace State.Law

variable {R : State → State → Prop} (law : State.Law R) (chatty : Bool)
include law

/-- Every evaluation keeps the law, however it ends. -/
theorem evaluate (depth n env s) : R s (Eval.final (evaluate chatty depth n env s)) := by
  induction depth generalizing n env s with
  | zero => exact law.refl s
  | succ depth ih => exact (Eval.Cut.node law (fun n env s => .self (ih n env s)) chatty n env).keeps

/-- Every invocation keeps the law, however it ends. -/
theorem invoke (depth callee receiver args s) :
    R s (Eval.final (Eval.invoke chatty (Scriptlet.evaluate chatty depth) callee receiver args s)) :=
  (Eval.Cut.invoke law (fun n env s => .self (law.evaluate chatty depth n env s)) chatty callee
    receiver args).keeps

/-- An evaluation is the same one within a greater limit, cut short. -/
theorem cut_evaluate {depth depth' : Nat} (hle : depth ≤ depth') (n env s) :
    Eval.Cut R (Scriptlet.evaluate chatty depth n env) (Scriptlet.evaluate chatty depth' n env)
      s := by
  induction depth generalizing depth' n env s with
  | zero =>
    have keeps := law.evaluate chatty depth' n env s
    exact ⟨keeps, .inr ⟨s, rfl, keeps⟩⟩
  | succ depth ih =>
    cases depth' with
    | zero => exact absurd hle (Nat.not_succ_le_zero depth)
    | succ depth' =>
      exact .node law (fun n env s => ih (Nat.le_of_succ_le_succ hle) n env s) chatty n env

end State.Law

end Scriptlet

import Scriptlet.Proofs.Coupling.Start
import Scriptlet.Proofs.Depth

/-!
# Instructions in sequence

A block stops at the first instruction that raises an error or yields a signal, wherever that comes
from. So it can be cut anywhere: the instructions up to the cut are a block of their own, and those
after it are another one, for which the state that the first left is where it starts, unless the first
has stopped (`Eval.instructions_append`). A block within a block is no more than its instructions, the
limit on the depth apart (`Eval.Cut.nested`, `Eval.Cut.flattened`).

For whole scripts this says what it is to stop: what comes after makes no difference to the run. And
what comes before is never undone: what it has written is written first
(`Script.instructions_sequenced`).
-/

namespace Scriptlet

namespace Eval

/-- Two computations in a row. A signal that the first yields is what both yield. -/
def andThen (x y : Eval Value) : Eval Value := do
  match ← x with
  | .returning signal v => return .returning signal v
  | _ => y

/-- The ways to end that leave nothing to do for what comes next: an error or a signal. -/
inductive Stops : Result Value → Prop where
  | error {e s} : Stops (.error e s)
  | returning {signal v s} : Stops (.ok (.returning signal v) s)

section Sequence

variable {x y z : Eval Value} {s t : State}

/-- Where the first of two computations stops, both do. -/
lemma andThen_of_stops (h : Stops (x s)) (y : Eval Value) : x.andThen y s = x s := by
  generalize hr : x s = r at h
  cases h with
  | error => exact bind_run_of_error hr _
  | returning => exact bind_run_of_ok hr _

/-- What yields a value that is no signal is followed by the next, from the state that it leaves. -/
lemma andThen_of_ok {v} (h : x s = .ok v t) (hv : ∀ signal w, v ≠ .returning signal w)
    (y : Eval Value) : x.andThen y s = y t := by
  rw [andThen, bind_run_of_ok h]
  cases v with
  | returning signal w => exact absurd rfl (hv signal w)
  | atom | ref => rfl

/-- A computation stops, or it yields a value that is no signal. -/
lemma stops_or_ok (r : Result Value) :
    Stops r ∨ ∃ v t, r = .ok v t ∧ ∀ signal w, v ≠ .returning signal w := by
  cases r with
  | error e t => exact .inl .error
  | ok v t =>
    cases v with
    | returning signal w => exact .inl .returning
    | atom | ref => exact .inr ⟨_, t, rfl, by simp⟩

/-- Of three computations in a row it does not matter which two are taken together. -/
lemma andThen_assoc (x y z : Eval Value) : (x.andThen y).andThen z = x.andThen (y.andThen z) := by
  funext s
  obtain h | ⟨v, t, h, hv⟩ := stops_or_ok (x s)
  · have hxy := andThen_of_stops h y
    rw [andThen_of_stops h, andThen_of_stops (hxy ▸ h), hxy]
  · have hxy := andThen_of_ok h hv y
    rw [andThen_of_ok h hv]
    -- the first is out of the way, and both sides go on with the second from where it ended
    obtain h' | ⟨w, u, h', hw⟩ := stops_or_ok (y t)
    · rw [andThen_of_stops (hxy ▸ h'), andThen_of_stops h', hxy]
    · rw [andThen_of_ok (hxy.trans h') hw, andThen_of_ok h' hw]

/-- Instructions are evaluated one and then the rest. -/
lemma instructions_cons (self : Evaluator) (env : Ref) (first : Node) (rest : List Node) :
    instructions self env (first :: rest) = (self first env).andThen (instructions self env rest) :=
  rfl

/-- Instructions can be cut anywhere. -/
theorem instructions_append (self : Evaluator) (env : Ref) (xs ys : List Node) :
    instructions self env (xs ++ ys) =
      (instructions self env xs).andThen (instructions self env ys) := by
  induction xs with
  | nil => rfl
  | cons first rest ih =>
    rw [List.cons_append, instructions_cons, instructions_cons, ih, andThen_assoc]

end Sequence

/-- A block can be cut anywhere, within any limit. -/
lemma evaluate_block_append (chatty : Bool) (depth : Nat) (env : Ref) (xs ys : List Node)
    (line line₁ line₂ : Int) :
    evaluate chatty depth (.block (xs ++ ys) line) env =
      (evaluate chatty depth (.block xs line₁) env).andThen
        (evaluate chatty depth (.block ys line₂) env) := by
  cases depth with
  | zero => rfl
  | succ depth => exact instructions_append (evaluate chatty depth) env xs ys

namespace Cut

variable {R : State → State → Prop} (law : State.Law R) {s : State}
include law

/-- A row of two computations is cut where one of them is. -/
lemma andThen {x x' y y' : Eval Value} (hx : Cut R x x' s) (hy : ∀ t, Cut R y y' t) :
    Cut R (x.andThen y) (x'.andThen y') s := by
  refine .bind law hx fun v t _ => ?_
  cases v with
  | returning => exact .pure law _
  | atom | ref => exact hy t

/-- Something between instructions is cut short with them. -/
lemma between {self self' : Evaluator} (hself : ∀ n env s, Cut R (self n env) (self' n env) s)
    {x x' : Eval Value} (hx : ∀ s, Cut R x x' s) (env : Ref) (xs zs : List Node) :
    Cut R ((Eval.instructions self env xs).andThen (x.andThen (Eval.instructions self env zs)))
      ((Eval.instructions self' env xs).andThen (x'.andThen (Eval.instructions self' env zs))) s := by
  refine .andThen law (.instructions law hself env xs) fun t => ?_
  exact .andThen law (hx t) fun _ => .instructions law hself env zs

variable (chatty : Bool) (depth : Nat) (env : Ref) (xs ys zs : List Node) (outer inner flat : Int)

/-- A block within a block is the flat block, cut short where the limit on the depth is reached. -/
lemma nested :
    Cut R (evaluate chatty depth (.block (xs ++ .block ys inner :: zs) outer) env)
      (evaluate chatty depth (.block (xs ++ ys ++ zs) flat) env) s := by
  cases depth with
  | zero => exact .self (law.refl s)
  | succ depth =>
    -- the instructions of the block inside are evaluated within a limit that is less by one
    have hblock : ∀ s, Cut R (evaluate chatty depth (.block ys inner) env)
        (Eval.instructions (evaluate chatty depth) env ys) s :=
      law.cut_evaluate chatty (Nat.le_succ depth) (.block ys inner) env
    show Cut R (Eval.instructions _ env _) (Eval.instructions _ env _) s
    rw [List.append_assoc, instructions_append, instructions_append, instructions_append]
    exact .between law (law.cut_evaluate chatty (Nat.le_refl depth)) hblock env xs zs

/-- A flat block is the block within a block for a limit that is greater by one, cut short. -/
lemma flattened :
    Cut R (evaluate chatty depth (.block (xs ++ ys ++ zs) flat) env)
      (evaluate chatty (depth + 1) (.block (xs ++ .block ys inner :: zs) outer) env) s := by
  cases depth with
  | zero =>
    have keeps := law.evaluate chatty 1 (.block (xs ++ .block ys inner :: zs) outer) env s
    exact ⟨keeps, .inr ⟨s, rfl, keeps⟩⟩
  | succ depth =>
    have hblock : ∀ s, Cut R (Eval.instructions (evaluate chatty depth) env ys)
        (evaluate chatty (depth + 1) (.block ys inner) env) s :=
      fun s => .self (law.evaluate chatty (depth + 1) (.block ys inner) env s)
    show Cut R (Eval.instructions _ env _) (Eval.instructions _ env _) s
    rw [List.append_assoc, instructions_append, instructions_append, instructions_append]
    exact .between law (law.cut_evaluate chatty (Nat.le_succ depth)) hblock env xs zs

end Cut

/-- A computation that is another one cut short, and does not end too deep, is the other one. -/
lemma Cut.eq_of_ne_tooDeep {R : State → State → Prop} {α : Type} {x x' : Eval α} {s : State}
    (hx : Cut R x x' s) (h : error? (outcome (x s)) ≠ some .tooDeep) : x s = x' s := by
  obtain h' | ⟨t, h', _⟩ := hx.cut
  · exact h'
  · rw [h'] at h
    exact absurd rfl h

end Eval

namespace Script

/-- The evaluation of the body of a script, from the start of a run. -/
def evaluation (script : Script) (depth : Nat) (report : Report) : Result Value :=
  evaluate report.verbose depth script.body scope (script.start report)

/-- A run of a block ends the way that the evaluation of the block does. -/
lemma interpret_block (body : List Node) (line : Int) (depth : Nat) (report : Report) :
    interpret depth report ⟨.block body line⟩ =
      report.ending scope (evaluation ⟨.block body line⟩ depth report) := by
  rw [interpret_eq_ending _ depth report rfl, watch_result]
  rfl

/-- With a report that is not verbose the evaluation of a block can be cut anywhere, too. -/
lemma evaluation_append (xs ys : List Node) (line line₁ line₂ : Int) (depth : Nat) {report : Report}
    (hq : report.verbose = false) :
    evaluation ⟨.block (xs ++ ys) line⟩ depth report =
      (evaluate report.verbose depth (.block xs line₁) scope).andThen
        (evaluate report.verbose depth (.block ys line₂) scope)
        (start ⟨.block xs line₁⟩ report) := by
  have hstart : start ⟨.block (xs ++ ys) line⟩ report = start ⟨.block xs line₁⟩ report := by
    rw [start_eq, start_eq ⟨.block xs line₁⟩, chatter_start _ hq, chatter_start _ hq]
  rw [evaluation, hstart, Eval.evaluate_block_append _ _ _ _ _ _ line₁ line₂]

/-- A block is its instructions one after the other: it can be cut anywhere, the second part starting
where the first one ended unless that stopped, and a block among them is the same as its instructions,
unless the limit on the depth is reached. So a script that stops in its first part runs, under a
report that is not verbose, as if the rest were not there, and any other one writes first what its
first part writes. -/
theorem instructions_sequenced (xs ys zs : List Node) (line line₁ line₂ : Int) :
    (∀ chatty depth env s,
      evaluate chatty depth (.block (xs ++ ys) line) env s =
        (evaluate chatty depth (.block xs line₁) env).andThen
          (evaluate chatty depth (.block ys line₂) env) s) ∧
    (∀ chatty depth env s,
      (Eval.error? (Eval.outcome
          (evaluate chatty depth (.block (xs ++ [.block ys line₂] ++ zs) line) env s)) ≠
          some .tooDeep →
        evaluate chatty depth (.block (xs ++ ys ++ zs) line₁) env s =
          evaluate chatty depth (.block (xs ++ [.block ys line₂] ++ zs) line) env s) ∧
      (Eval.error? (Eval.outcome (evaluate chatty depth (.block (xs ++ ys ++ zs) line₁) env s)) ≠
          some .tooDeep →
        evaluate chatty (depth + 1) (.block (xs ++ [.block ys line₂] ++ zs) line) env s =
          evaluate chatty depth (.block (xs ++ ys ++ zs) line₁) env s)) ∧
    ∀ depth (report : Report), report.verbose = false →
      (Eval.Stops (evaluation ⟨.block xs line₁⟩ depth report) →
        interpret depth report ⟨.block (xs ++ ys) line⟩ =
          interpret depth report ⟨.block xs line₁⟩) ∧
      (¬ Eval.Stops (evaluation ⟨.block xs line₁⟩ depth report) →
        (interpret depth report ⟨.block xs line₁⟩).state.writes <+:
          (interpret depth report ⟨.block (xs ++ ys) line⟩).state.writes) := by
  refine ⟨fun chatty depth env s => ?_, fun chatty depth env s => ⟨fun h => ?_, fun h => ?_⟩,
    fun depth report hq => ⟨fun hstops => ?_, fun hgoes => ?_⟩⟩
  · rw [Eval.evaluate_block_append _ _ _ _ _ _ line₁ line₂]
  · rw [← List.append_cons] at h ⊢
    have hcut := Eval.Cut.nested State.law_writes chatty depth env xs ys zs line line₂ line₁ (s := s)
    exact (hcut.eq_of_ne_tooDeep h).symm
  · rw [← List.append_cons]
    have hcut :=
      Eval.Cut.flattened State.law_writes chatty depth env xs ys zs line line₂ line₁ (s := s)
    exact (hcut.eq_of_ne_tooDeep h).symm
  · rw [interpret_block, interpret_block, evaluation_append xs ys line line₁ line₂ depth hq]
    exact congrArg _ (Eval.andThen_of_stops hstops _)
  · rw [interpret_block, interpret_block, evaluation_append xs ys line line₁ line₂ depth hq,
      Report.writes_ending, Report.writes_ending]
    obtain hstops | ⟨v, t, h, hv⟩ := Eval.stops_or_ok (evaluation ⟨.block xs line₁⟩ depth report)
    · exact absurd hstops hgoes
    · rw [Eval.andThen_of_ok h hv, h]
      exact State.law_writes.evaluate report.verbose depth (.block ys line₂) scope t

/-- A call that prints a word. -/
def printing (word : String) : Node := .call (.var "print" 1) [.literal (.str word) 1] 1

/-- Instructions that keep the signal of a `return` under a name, print a word, and come to the name.
-/
def keptSignal : List Node :=
  [.assign "r" (.ret (.literal (.str "kept") 1) 1) true 1, printing "one", .var "r" 2]

/-- Instructions that print a word and stop at a `return`. -/
def parting : List Node := [printing "two", .ret (.literal (.str "over") 1) 1]

/-- The kept signal stops a script as if nothing came after it. A word is written first whatever comes
after it; and if that is a `return` in a block inside, it stops the block around it, too. -/
theorem instructions_sequenced_keptSignal :
    Report.quiet.verbose = false ∧
      Eval.Stops (evaluation ⟨.block keptSignal 1⟩ 9 .quiet) ∧
      (interpret 9 .quiet ⟨.block keptSignal 1⟩).state.writes = ["one\n"] ∧
      interpret 9 .quiet ⟨.block (keptSignal ++ parting) 1⟩ =
        interpret 9 .quiet ⟨.block keptSignal 1⟩ ∧
      ¬ Eval.Stops (evaluation ⟨.block [printing "one"] 1⟩ 9 .quiet) ∧
      (interpret 9 .quiet ⟨.block [printing "one"] 1⟩).state.writes <+:
        (interpret 9 .quiet ⟨.block ([printing "one"] ++ parting) 1⟩).state.writes ∧
      (interpret 9 .quiet ⟨.block ([printing "one"] ++ parting) 1⟩).state.writes =
        ["one\n", "two\n"] ∧
      evaluate false 4
          (.block ([printing "one"] ++ [.block parting 1] ++ [printing "three"]) 1) scope
          (start ⟨.block [] 1⟩ .quiet) =
        evaluate false 3 (.block ([printing "one"] ++ parting ++ [printing "three"]) 1) scope
          (start ⟨.block [] 1⟩ .quiet) ∧
      evaluate false 4 (.block ([printing "one"] ++ parting ++ [printing "three"]) 1) scope
          (start ⟨.block [] 1⟩ .quiet) =
        evaluate false 4
          (.block ([printing "one"] ++ [.block parting 1] ++ [printing "three"]) 1) scope
          (start ⟨.block [] 1⟩ .quiet) := by
  have hstops : Eval.Stops (evaluation ⟨.block keptSignal 1⟩ 9 .quiet) := .returning
  have hgoes : ¬ Eval.Stops (evaluation ⟨.block [printing "one"] 1⟩ 9 .quiet) := by
    intro h
    cases h
  have hkept := (instructions_sequenced keptSignal parting [] 1 1 1).2.2 9 .quiet rfl
  obtain ⟨_, hnested, hruns⟩ :=
    instructions_sequenced [printing "one"] parting [printing "three"] 1 1 1
  obtain ⟨hflat, _⟩ := hnested false 4 scope (start ⟨.block [] 1⟩ .quiet)
  obtain ⟨_, hdeeper⟩ := hnested false 3 scope (start ⟨.block [] 1⟩ .quiet)
  exact ⟨rfl, hstops, rfl, hkept.1 hstops, hgoes, (hruns 9 .quiet rfl).2 hgoes, rfl,
    hdeeper (fun h => by cases h), hflat (fun h => by cases h)⟩

end Script

end Scriptlet

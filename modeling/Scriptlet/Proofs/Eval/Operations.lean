import Mathlib.Tactic.Lemma
import Scriptlet.Eval.Node
import Scriptlet.Proofs.Heap.Growth

/-!
# What operations can do

The operations that rules are made of, each with one statement that says how it can end: what it
answers, which faults and failures it may come to, and what it leaves of the state. Only integers
with too many digits have no text (`Heap.text_error`), operators answer atoms and come to faults of
their operands (`Heap.apply_ok`, `Heap.apply_error`), and no routine of the host touches the heap
(`Eval.runHost_ends`).
-/

namespace Scriptlet

/-- How a computation ends. -/
abbrev Result (α : Type) := EStateM.Result Error State α

namespace Eval

/-- The state that a computation ends in. -/
def final : Result α → State
  | .ok _ s => s
  | .error _ s => s

/-- The value or the error that a computation ends with. -/
def outcome : Result α → Except Error α
  | .ok a _ => .ok a
  | .error e _ => .error e

/-- The error of an outcome, if it is one. -/
def error? : Except Error α → Option Error
  | .ok _ => none
  | .error e => some e

end Eval

/-- An error of an invocation on its way through a call: a failure without a site gets that of the
call. -/
def Error.locate (site : Node) : Error → Error
  | .failure f => .failure (f.locate (some site))
  | e => e

/-- A failure that was given a site has one. -/
lemma Error.isSome_site_of_locate {e : Error} {site f} (h : e.locate site = .failure f) :
    f.site.isSome := by
  cases e with
  | failure g =>
    cases h
    cases hs : g.site <;> simp [Failure.locate, hs]
  | fault | tooDeep => cases h

/-- The faults that come from the operands of an operator or from a value to be shown. -/
inductive Fault.OfOperands : Fault → Prop where
  | notInteger {shown} : OfOperands (.notInteger shown)
  | unordered {op left right} : OfOperands (.unordered op left right)
  | zeroDivisor : OfOperands .zeroDivisor
  | longInteger : OfOperands .longInteger

/-- The counts of arguments that a routine has no use for, if nothing checks them before. -/
inductive Host.Refuses : Host → Nat → Prop where
  | operator {op n} : n ≠ 2 → Refuses (.operator op) n
  | last : Refuses .last 0

/-- How a routine of the host can end: with an atom or one of its arguments, or not at all. The heap
is what it was before. -/
inductive Host.Ends (host : Host) (args : List Value) (s : State) : Result Value → Prop where
  | answer {v s'} :
    s'.heap = s.heap →
    (∃ a, v = .atom a) ∨ v ∈ args →
    Ends host args s (.ok v s')
  | fault {f s'} :
    s'.heap = s.heap →
    f.OfOperands →
    Ends host args s (.error (.fault f) s')
  | refuse :
    host.Refuses args.length →
    Ends host args s (.error (.fault (.operandCount args.length)) s)
  | giveUp :
    host = .fail →
    Ends host args s (.error (.failure ⟨.hostGaveUp, none⟩) s)

/-- No routine of the host touches the heap. -/
lemma Host.Ends.heap_eq {host : Host} {args s r} (ends : host.Ends args s r) :
    (Eval.final r).heap = s.heap := by
  cases ends with
  | answer hs _ => exact hs
  | fault hs _ => exact hs
  | refuse _ | giveUp _ => rfl

/-- A routine of the host answers with an atom or one of its arguments. -/
lemma Host.Ends.answer_cases {host : Host} {args s r} (ends : host.Ends args s r) {v}
    (hv : Eval.outcome r = .ok v) : (∃ a, v = .atom a) ∨ v ∈ args := by
  cases ends with
  | answer _ ha =>
    cases hv
    exact ha
  | fault | refuse | giveUp => cases hv

/-- An error of two computations in a row is an error of the first, or one of the second after a
value of the first. -/
lemma error_of_bind {x : Except ε α} {f : α → Except ε β} {e} (h : (x >>= f) = .error e) :
    x = .error e ∨ ∃ a, x = .ok a ∧ f a = .error e := by
  cases x with
  | error e' =>
    cases h
    exact .inl rfl
  | ok a => exact .inr ⟨a, rfl, h⟩

/-- A value of two computations in a row is one of the second after a value of the first. -/
lemma ok_of_bind {x : Except ε α} {f : α → Except ε β} {b} (h : (x >>= f) = .ok b) :
    ∃ a, x = .ok a ∧ f a = .ok b := by
  cases x with
  | error e => cases h
  | ok a => exact ⟨a, rfl, h⟩

section Text

/-- What cannot be written has too many digits. -/
lemma Fault.written_eq_error_iff {text : Option String} {f} :
    written text = .error f ↔ text = none ∧ f = .longInteger := by
  cases text with
  | some text => exact ⟨nofun, nofun⟩
  | none =>
    refine ⟨fun h => ?_, fun h => h.2 ▸ rfl⟩
    cases h
    exact ⟨rfl, rfl⟩

/-- An atom without a text is an integer with too many digits. -/
lemma Atom.text_error {a : Atom} {f} (h : a.text = .error f) : f = .longInteger := by
  unfold Atom.text at h
  split at h
  · exact (Fault.written_eq_error_iff.1 h).2
  all_goals cases h

/-- An atom without a quoted text is an integer with too many digits. -/
lemma Atom.quoted_error {a : Atom} {f} (h : a.quoted = .error f) : f = .longInteger := by
  unfold Atom.quoted at h
  split at h
  · cases h
  · exact Atom.text_error h

/-- The atoms without a text are the integers with too many digits. -/
lemma Atom.text_eq_error_iff {a : Atom} {f} :
    a.text = .error f ↔ f = .longInteger ∧ ∃ i, a = .int i ∧ Text.decimal? i = none := by
  constructor
  · intro h
    refine ⟨Atom.text_error h, ?_⟩
    unfold Atom.text at h
    split at h
    · exact ⟨_, rfl, (Fault.written_eq_error_iff.1 h).1⟩
    all_goals cases h
  · rintro ⟨rfl, i, rfl, hi⟩
    rw [Atom.text]
    exact Fault.written_eq_error_iff.2 ⟨hi, rfl⟩

/-- An atom has a quoted text if it has a plain one. -/
lemma Atom.quoted_eq_error_iff {a : Atom} {f} : a.quoted = .error f ↔ a.text = .error f := by
  unfold Atom.quoted
  split
  · exact ⟨nofun, nofun⟩
  · exact Iff.rfl

variable {object : Ref → Except Fault String} (hobj : ∀ r f, object r = .error f → f = .longInteger)
include hobj

/-- A value has no quoted text only for the sake of an integer. -/
lemma Value.quotedBy_error {v : Value} {f} (h : v.quotedBy object = .error f) :
    f = .longInteger := by
  induction v with
  | atom a => exact Atom.quoted_error h
  | ref r => exact hobj r f h
  | returning signal v ih =>
    obtain h | ⟨text, _, h⟩ := error_of_bind h
    · exact ih h
    · cases h

/-- A value has no plain text only for the sake of an integer. -/
lemma Value.textBy_error {v : Value} {f} (h : v.textBy object = .error f) : f = .longInteger := by
  unfold Value.textBy at h
  split at h
  · exact Atom.text_error h
  · exact Value.quotedBy_error hobj h

/-- Fields have no texts only for the sake of an integer. -/
lemma Fields.textsBy_error {fields : Fields} {f} (h : fields.textsBy object = .error f) :
    f = .longInteger := by
  induction fields with
  | nil => cases h
  | cons field rest ih =>
    obtain ⟨name, value⟩ := field
    obtain h | ⟨text, _, h⟩ := error_of_bind h
    · exact Value.textBy_error hobj h
    · obtain h | ⟨texts, _, h⟩ := error_of_bind h
      · exact ih h
      · cases h

end Text

namespace Heap

/-- An object within a path has no text only for the sake of an integer. -/
lemma objectTextWithin_error {h : Heap} {n path r f} (he : h.objectTextWithin n path r = .error f) :
    f = .longInteger := by
  induction n generalizing path r f with
  | zero => cases he
  | succ n ih =>
    rw [objectTextWithin] at he
    split at he
    · split at he
      · cases he
      · obtain he | ⟨texts, _, he⟩ := error_of_bind he
        · exact Fields.textsBy_error (fun _ _ => ih) he
        · cases he
    all_goals cases he

/-- An object has no text only for the sake of an integer. -/
lemma objectText_error {h : Heap} {r f} (he : h.objectText r = .error f) : f = .longInteger :=
  objectTextWithin_error he

/-- A value has no plain text only for the sake of an integer. -/
lemma text_error {h : Heap} {v f} (he : h.text v = .error f) : f = .longInteger :=
  Value.textBy_error (fun _ _ => objectText_error) he

/-- A value has no quoted text only for the sake of an integer. -/
lemma quoted_error {h : Heap} {v f} (he : h.quoted v = .error f) : f = .longInteger :=
  Value.quotedBy_error (fun _ _ => objectText_error) he

/-- Values have no plain texts only for the sake of an integer. -/
lemma textAll_error {h : Heap} {vs f} (he : h.textAll vs = .error f) : f = .longInteger := by
  induction vs with
  | nil => cases he
  | cons v rest ih =>
    obtain he | ⟨text, _, he⟩ := error_of_bind he
    · exact text_error he
    · obtain he | ⟨texts, _, he⟩ := error_of_bind he
      · exact ih he
      · cases he

/-- Values have no quoted texts only for the sake of an integer. -/
lemma quotedAll_error {h : Heap} {vs f} (he : h.quotedAll vs = .error f) : f = .longInteger := by
  induction vs with
  | nil => cases he
  | cons v rest ih =>
    obtain he | ⟨text, _, he⟩ := error_of_bind he
    · exact quoted_error he
    · obtain he | ⟨texts, _, he⟩ := error_of_bind he
      · exact ih he
      · cases he

/-- A trace of a print is cut short only for the sake of an integer. -/
lemma printTrace_fault {h : Heap} {args f} (hf : (h.printTrace args).fault = some f) :
    f = .longInteger := by
  cases hq : h.quotedAll args with
  | ok texts => simp [printTrace, hq, Printout.line, Except.map] at hf
  | error g =>
    simp only [printTrace, hq, Printout.line, Except.map, Option.some.injEq] at hf
    exact hf ▸ quotedAll_error hq

/-- An operand that is no integer is shown, unless it has no text. -/
lemma integer_error {h : Heap} {v f} (he : h.integer v = .error f) : f.OfOperands := by
  unfold integer at he
  split at he
  · cases he
  · obtain he | ⟨text, _, he⟩ := error_of_bind he
    · exact quoted_error he ▸ .longInteger
    · cases he
      exact .notInteger

/-- Values without an order are faults of the operands. -/
lemma ordered_error {h : Heap} {op v w f} (he : h.ordered op v w = .error f) : f.OfOperands := by
  fun_induction ordered h op v w with
  | case1 => cases he
  | case2 _ _ _ _ _ ih => exact ih he
  | case3 => cases he
  | case4 =>
    cases he
    exact .unordered
  | case5 =>
    cases he
    exact .unordered

/-- Arithmetic that has no answer divides by zero. -/
lemma compute_error {op : Arithmetic} {a b f} (he : op.compute a b = .error f) : f.OfOperands := by
  unfold Arithmetic.compute at he
  split at he
  any_goals cases he
  all_goals
    split at he
    · cases he
      exact .zeroDivisor
    · cases he

/-- Operators come to faults of their operands only. -/
lemma apply_error {h : Heap} {op v w f} (he : h.apply op v w = .error f) : f.OfOperands := by
  unfold apply at he
  split at he
  · obtain he | ⟨a, _, he⟩ := error_of_bind he
    · exact integer_error he
    obtain he | ⟨b, _, he⟩ := error_of_bind he
    · exact integer_error he
    obtain he | ⟨c, _, he⟩ := error_of_bind he
    · exact compute_error he
    · cases he
  · cases he
  · cases he
  · obtain he | ⟨b, _, he⟩ := error_of_bind he
    · exact ordered_error he
    · cases he

/-- Operators answer atoms. -/
lemma apply_ok {h : Heap} {op v w x} (he : h.apply op v w = .ok x) : ∃ a, x = .atom a := by
  unfold apply at he
  split at he
  · obtain ⟨a, _, he⟩ := ok_of_bind he
    obtain ⟨b, _, he⟩ := ok_of_bind he
    obtain ⟨c, _, he⟩ := ok_of_bind he
    cases he
    exact ⟨_, rfl⟩
  · cases he
    exact ⟨_, rfl⟩
  · cases he
    exact ⟨_, rfl⟩
  · obtain ⟨b, _, he⟩ := ok_of_bind he
    cases he
    exact ⟨_, rfl⟩

end Heap

namespace Eval

/-- Giving a site to a failure leaves the state as it is. -/
lemma final_located (x : Eval α) (site : Node) (s : State) :
    final (x.located site s) = final (x s) := by
  rw [located]
  split
  · rename_i h
    rw [h]
    rfl
  · rfl

/-- Giving a site to a failure changes the error that there is, and nothing else. -/
lemma error?_located (x : Eval α) (site : Node) (s : State) :
    error? (outcome (x.located site s)) = (error? (outcome (x s))).map (Error.locate site) := by
  rw [located]
  cases x s with
  | ok a s' => rfl
  | error e s' => cases e <;> rfl

/-- Giving a site to a failure leaves values as they are. -/
lemma outcome_located_eq_ok_iff {x : Eval α} {site : Node} {s : State} {a} :
    outcome (x.located site s) = .ok a ↔ outcome (x s) = .ok a := by
  rw [located]
  cases x s with
  | ok a s' => rfl
  | error e s' => cases e <;> exact ⟨nofun, nofun⟩

/-- Showing a value in a failure ends in that failure, unless the value has no text. -/
lemma show_fail_cases (v : Value) (cause : String → Failure.Cause) (site) (s : State) :
    (do
      let shown ← read fun h => h.text v
      fail (cause shown) site : Eval α) s = .error (.fault .longInteger) s ∨
    ∃ shown, (do
      let shown ← read fun h => h.text v
      fail (cause shown) site : Eval α) s = .error (.failure ⟨cause shown, site⟩) s := by
  cases ht : s.heap.text v with
  | error f =>
    obtain rfl := Heap.text_error ht
    have hread : read (fun h => h.text v) s = .error (.fault .longInteger) s := by
      simp only [read, ht]
    exact .inl (bind_run_of_error hread _)
  | ok shown =>
    have hread : read (fun h => h.text v) s = .ok shown s := by simp only [read, ht]
    exact .inr ⟨shown, bind_run_of_ok hread _⟩

/-- A primitive refuses a call in a failure, unless the number of arguments that it asks for has no
text. -/
lemma refuse_cases (name expected got) (s : State) :
    Text.decimal? expected = none ∧ refuse name expected got s = .error (.fault .longInteger) s ∨
    Text.decimal? expected ≠ none ∧
      refuse name expected got s = .error (.failure ⟨.wrongCount name expected got, none⟩) s := by
  cases h : Text.decimal? expected with
  | none =>
    have hread : read (fun _ => Fault.written (Text.decimal? expected)) s =
        .error (.fault .longInteger) s := by
      simp only [read, h, Fault.written]
    exact .inl ⟨rfl, bind_run_of_error hread _⟩
  | some text =>
    have hread : read (fun _ => Fault.written (Text.decimal? expected)) s = .ok text s := by
      simp only [read, h, Fault.written]
    exact .inr ⟨nofun, bind_run_of_ok hread _⟩

/-- A value is an object that is there, or the search for one fails. -/
lemma asObject_cases (v : Value) (site) (s : State) :
    (∃ r, v = .ref r ∧ r.index < s.heap.size ∧ asObject v site s = .ok r s) ∨
    asObject v site s = .error (.fault .longInteger) s ∨
    ∃ shown, asObject v site s = .error (.failure ⟨.notObject shown, some site⟩) s := by
  rw [asObject]
  rw [bind_run_of_ok (x := read fun h => .ok (h.object? v)) (s := s) rfl]
  cases hv : s.heap.object? v with
  | some r =>
    obtain ⟨rfl, hr⟩ := Heap.object?_eq_some hv
    exact .inl ⟨r, rfl, hr, rfl⟩
  | none => exact .inr (show_fail_cases v .notObject (some site) s)

/-- A name that is to be declared is free, or the demand for it fails. -/
lemma demandFree_cases (declares env name site) (s : State) :
    demandFree declares env name site s = .ok () s ∨
    declares = true ∧
      demandFree declares env name site s = .error (.failure ⟨.duplicate name, some site⟩) s := by
  cases declares with
  | false => exact .inl rfl
  | true =>
    rw [demandFree]
    rw [if_pos rfl, bind_run_of_ok (x := lookup env name) (s := s) rfl]
    split
    · exact .inl rfl
    · exact .inr ⟨rfl, rfl⟩

/-- The trace of a print leaves the heap as it is. -/
lemma tracePrint_cases (chatty args) (s : State) :
    (∃ s', tracePrint chatty args s = .ok () s' ∧ s'.heap = s.heap) ∨
    ∃ s', tracePrint chatty args s = .error (.fault .longInteger) s' ∧ s'.heap = s.heap := by
  cases chatty with
  | false => exact .inl ⟨s, rfl, rfl⟩
  | true =>
    simp only [tracePrint, if_true]
    rw [bind_run_of_ok (x := read fun h => .ok (h.printTrace args)) (s := s) rfl]
    rw [chat]
    cases hf : (s.heap.printTrace args).fault with
    | none => exact .inl ⟨_, rfl, rfl⟩
    | some f =>
      obtain rfl := Heap.printTrace_fault hf
      exact .inr ⟨_, rfl, rfl⟩

/-- Printing answers the undefined value, unless an argument has no text. -/
lemma print_ends (chatty args) (s : State) : Host.print.Ends args s (print chatty args s) := by
  rw [print]
  obtain ⟨s₁, h₁, hs₁⟩ | ⟨s₁, h₁, hs₁⟩ := tracePrint_cases chatty args s
  · rw [bind_run_of_ok h₁]
    cases ht : s₁.heap.textAll args with
    | error f =>
      obtain rfl := Heap.textAll_error ht
      have hread : read (fun h => h.textAll args) s₁ = .error (.fault .longInteger) s₁ := by
        simp only [read, ht]
      rw [bind_run_of_error hread]
      exact .fault hs₁ .longInteger
    | ok texts =>
      have hread : read (fun h => h.textAll args) s₁ = .ok texts s₁ := by simp only [read, ht]
      rw [bind_run_of_ok hread]
      exact .answer hs₁ (.inl ⟨_, rfl⟩)
  · rw [bind_run_of_error h₁]
    exact .fault hs₁ .longInteger

/-- How the routines of the host end. -/
lemma runHost_ends (chatty : Bool) (host : Host) (args) (s : State) :
    host.Ends args s (runHost chatty host args s) := by
  cases host with
  | operator op =>
    match args with
    | [v, w] =>
      simp only [runHost, read]
      cases ha : s.heap.apply op v w with
      | ok x => exact .answer rfl (.inl (Heap.apply_ok ha))
      | error f => exact .fault rfl (Heap.apply_error ha)
    | [] | [_] | _ :: _ :: _ :: _ => exact .refuse (.operator (by simp))
  | print => exact print_ends chatty args s
  | count => exact .answer rfl (.inl ⟨_, rfl⟩)
  | last =>
    simp only [runHost]
    cases hl : args.getLast? with
    | some v => exact .answer rfl (.inr (List.mem_of_getLast? hl))
    | none =>
      obtain rfl := List.getLast?_eq_none_iff.1 hl
      exact .refuse .last
  | fail => exact .giveUp rfl

end Eval

end Scriptlet

import Scriptlet.Proofs.Path.Start
import Scriptlet.Proofs.Report.Conclusion

/-!
# The transcript of a run

A verbose report sets down on the console what a script prints, and the sink gets what it prints.
The two logs are written at different places, and they go together call by call: one write and one
line of the transcript for each invocation of the routine that prints, by whatever name a script has
come to call it, and nothing for anything else (`Script.outputs_transcribed`). This is a law of
paths, for it is the primitives of the global scope alone that put anything out, and none is ever
added.
-/

namespace Scriptlet

/-- The value of `print` in a fresh global scope. -/
def Script.printer : Value := (Global.prepare .empty).lookup Script.scope "print"

/-- The heap and the arguments at the beginning of a print. -/
def Moment.print? (m : Moment) : Option (Heap × List Value) :=
  match m.event with
  | .invoke c => if .ref c.callee = Script.printer then some (m.state.heap, c.args) else none
  | _ => none

/-- The prints of a run, in order. -/
def Script.prints (script : Script) (depth : Nat) (report : Report) : List (Heap × List Value) :=
  (script.history depth report).filterMap Moment.print?

/-- What prints write to the sink, and what a verbose report puts on the console for them: for each
print the texts of its arguments at that moment, plain and quoted. -/
inductive Transcript : List (Heap × List Value) → List String → String → Prop where
  | nil :
    Transcript [] [] ""
  | cons {h args texts quoted prints writes out} :
    h.textAll args = .ok texts →
    h.quotedAll args = .ok quoted →
    Transcript prints writes out →
    Transcript ((h, args) :: prints) ((String.intercalate " " texts ++ "\n") :: writes)
      ("print called with [" ++ String.intercalate ", " quoted ++ "]\n" ++ out)

/-- What a verbose report puts on the console at the end of a run, by how the evaluation and the run
ended: after a failure, its site with its kind for a caption. -/
inductive Ending.Closes : Except Error Value → Ending → String → Prop where
  | returned {v} :
    Closes (.ok v) .returned ""
  | failure {f n text} :
    f.site = some n →
    n.illustrate f.kind.name = .ok text →
    Closes (.error (.failure f)) (.failure f) (text ++ "\n")
  | enough {f n text} :
    f.site = some n →
    n.illustrate f.kind.name = .ok text →
    Closes (.error (.failure f)) (.enough f.kind) (text ++ "\n")

namespace Transcript

variable {prints prints' : List (Heap × List Value)} {writes writes' : List String}
  {out out' : String}

/-- One transcript after another. -/
lemma append (log : Transcript prints writes out) (log' : Transcript prints' writes' out') :
    Transcript (prints ++ prints') (writes ++ writes') (out ++ out') := by
  induction log with
  | nil =>
    rw [String.empty_append]
    exact log'
  | cons ht hq _ ih =>
    rw [String.append_assoc]
    exact .cons ht hq ih

/-- There is one write for each print. -/
lemma length_eq (log : Transcript prints writes out) : writes.length = prints.length := by
  induction log with
  | nil => rfl
  | cons _ _ _ ih => rw [List.length_cons, List.length_cons, ih]

end Transcript

/-- What is put out from one state to another is the transcript of these prints. -/
def State.Transcribes (s : State) (prints : List (Heap × List Value)) (s' : State) : Prop :=
  ∃ writes out, Transcript prints writes out ∧
    s'.writes = s.writes ++ writes ∧ s'.chatter = s.chatter ++ out

namespace State.Transcribes

variable {s s₁ s₂ : State} {prints prints' : List (Heap × List Value)}

/-- Where nothing is put out, nothing is printed. -/
lemma silent (hwrites : s₁.writes = s.writes) (hchatter : s₁.chatter = s.chatter) :
    s.Transcribes [] s₁ := by
  refine ⟨[], "", .nil, ?_, ?_⟩
  · rw [hwrites, List.append_nil]
  · rw [hchatter, String.append_empty]

/-- The transcripts of two stretches in a row make one of both. -/
lemma trans (h : s.Transcribes prints s₁) (h' : s₁.Transcribes prints' s₂) :
    s.Transcribes (prints ++ prints') s₂ := by
  obtain ⟨writes, out, log, hw, hc⟩ := h
  obtain ⟨writes', out', log', hw', hc'⟩ := h'
  refine ⟨writes ++ writes', out ++ out', log.append log', ?_, ?_⟩
  · rw [hw', hw, List.append_assoc]
  · rw [hc', hc, String.append_assoc]

end State.Transcribes

/-- A heap whose primitives are those of a fresh global scope. -/
def Heap.Bootstrapped (h : Heap) : Prop :=
  ∀ r name host arity, h.kind? r = some (.primitive name host arity) ↔
    (Global.prepare .empty).kind? r = some (.primitive name host arity)

namespace Global

/-- The reference of the routine that prints. -/
lemma printer_eq : Script.printer = .ref ⟨1⟩ := rfl

/-- In the global scope the first primitive prints. -/
lemma kind?_printer : (prepare .empty).kind? ⟨1⟩ = some (.primitive "print" .print none) := rfl

/-- The routine that prints comes first, and all others are operators. -/
lemma kind?_primitive {r name host arity}
    (hk : (prepare .empty).kind? r = some (.primitive name host arity)) :
    r = ⟨1⟩ ∧ host = .print ∨ r ≠ ⟨1⟩ ∧ ∃ op, host = .operator op := by
  obtain ⟨o, ho, hkind⟩ := Option.map_eq_some_iff.1 hk
  rw [get?_prepare_of_le (Nat.zero_le _)] at ho
  obtain ⟨i⟩ := r
  match i with
  | 0 =>
    cases ho
    cases hkind
  | 1 =>
    cases ho
    cases hkind
    exact .inl ⟨rfl, rfl⟩
  | i + 2 =>
    obtain ⟨entry, hentry, rfl⟩ := List.mem_map.1 (List.mem_of_getElem? (i := i) ho)
    obtain ⟨op, _, rfl⟩ := List.mem_map.1 hentry
    cases hkind
    exact .inr ⟨by simp, op, rfl⟩

end Global

namespace Heap.Bootstrapped

variable {h : Heap}

/-- The first primitive of a heap that began with a global scope prints. -/
lemma kind?_printer (boot : h.Bootstrapped) : h.kind? ⟨1⟩ = some (.primitive "print" .print none) :=
  (boot ..).2 Global.kind?_printer

/-- What is of another kind is not the routine that prints. -/
lemma ne_printer (boot : h.Bootstrapped) {r k} (hk : h.kind? r = some k)
    (hne : k ≠ .primitive "print" .print none) : r ≠ ⟨1⟩ := by
  rintro rfl
  exact hne (Option.some.inj (hk.symm.trans boot.kind?_printer))

/-- A new object that is no primitive leaves the primitives as they are. -/
lemma push (boot : h.Bootstrapped) {object : Object} (hshape : object.kind.shape ≠ .primitive) :
    (h.push object).Bootstrapped :=
  fun r _ _ _ => ⟨fun hk => (boot ..).1 (kind?_primitive_of_push hshape hk),
    fun hk => le_push h object r _ ((boot ..).2 hk)⟩

/-- A path makes no primitives and loses none. -/
lemma along {C : Contract} {chatty scope s l e s'} (path : C.Path chatty scope s l e s')
    (boot : s.heap.Bootstrapped) : s'.heap.Bootstrapped :=
  fun r _ _ _ => ⟨fun hk => (boot ..).1 (path.kind?_primitive hk),
    fun hk => path.le r _ ((boot ..).2 hk)⟩

end Heap.Bootstrapped

namespace Eval

/-- Operators put nothing out. -/
lemma final_runHost_operator (chatty : Bool) (op : Operator) (args : List Value) (s : State) :
    final (runHost chatty (.operator op) args s) = s := by
  match args with
  | [v, w] =>
    simp only [runHost, read]
    split <;> rfl
  | [] | [_] | _ :: _ :: _ :: _ => rfl

/-- A print that is traced puts the quoted texts of its arguments on the console and then writes the
plain ones to the sink, unless one has no text. -/
lemma print_cases (args : List Value) (s : State) :
    (∃ f s', print true args s = .error (.fault f) s') ∨
      ∃ texts quoted, s.heap.textAll args = .ok texts ∧ s.heap.quotedAll args = .ok quoted ∧
        print true args s = .ok .undefined { s with
          writes := s.writes ++ [String.intercalate " " texts ++ "\n"]
          chatter := s.chatter ++
            ("print called with [" ++ String.intercalate ", " quoted ++ "]\n") } := by
  cases hq : s.heap.quotedAll args with
  | error f =>
    have hfault : (s.heap.printTrace args).fault = some f := by
      simp only [Heap.printTrace, hq, Printout.line, Except.map]
    have htrace : ∃ s', tracePrint true args s = .error (.fault f) s' := by
      simp only [tracePrint, if_true]
      rw [bind_run_of_ok (x := read fun h => .ok (h.printTrace args)) (s := s) rfl]
      simp only [chat, hfault]
      exact ⟨_, rfl⟩
    obtain ⟨s', htrace⟩ := htrace
    exact .inl ⟨f, s', bind_run_of_error htrace _⟩
  | ok quoted =>
    have hout : s.heap.printTrace args =
        ⟨"print called with [" ++ String.intercalate ", " quoted ++ "]\n", none⟩ := by
      have hhead : "print called with [" = "print called with" ++ " " ++ "[" := rfl
      have htail : "]\n" = "]" ++ "\n" := rfl
      simp only [Heap.printTrace, hq, Printout.line, Except.map, hhead, htail, String.append_assoc]
    have htrace : tracePrint true args s = .ok () { s with
        chatter := s.chatter ++
          ("print called with [" ++ String.intercalate ", " quoted ++ "]\n") } := by
      simp only [tracePrint, if_true]
      rw [bind_run_of_ok (x := read fun h => .ok (h.printTrace args)) (s := s) rfl]
      simp only [chat, hout]
    generalize hs₁ : ({ s with chatter := _ } : State) = s₁ at htrace
    have hheap : s₁.heap = s.heap := hs₁ ▸ rfl
    rw [print, bind_run_of_ok htrace]
    cases ht : s.heap.textAll args with
    | error f =>
      have hread : read (fun h => h.textAll args) s₁ = .error (.fault f) s₁ := by
        simp only [read, hheap, ht]
      exact .inl ⟨f, s₁, bind_run_of_error hread _⟩
    | ok texts =>
      have hread : read (fun h => h.textAll args) s₁ = .ok texts s₁ := by
        simp only [read, hheap, ht]
      refine .inr ⟨texts, quoted, rfl, rfl, ?_⟩
      rw [bind_run_of_ok hread, ← hs₁]
      rfl

end Eval

namespace Contract

variable {C : Contract} {scope : Ref} {s s' : State} {l : List Moment} {e : Option Error}

/-- Only invocations are prints. -/
lemma filterMap_between {a b : Moment} (ha : a.print? = none) (hb : b.print? = none) :
    (a :: (l ++ [b])).filterMap Moment.print? = l.filterMap Moment.print? := by
  simp only [List.filterMap_cons, List.filterMap_append, List.filterMap_nil, ha, hb,
    List.append_nil]

/-- An invocation of another function than the one that prints is no print. -/
lemma print?_invoke_of_ne {c : Invocation} (hne : c.callee ≠ ⟨1⟩) :
    (⟨.invoke c, s⟩ : Moment).print? = none := by
  rw [Moment.print?]
  refine if_neg fun h => hne ?_
  rw [Global.printer_eq] at h
  exact Value.ref.inj h

/-- An invocation of the function that prints is a print. -/
lemma print?_invoke_printer {c : Invocation} (h : c.callee = ⟨1⟩) :
    (⟨.invoke c, s⟩ : Moment).print? = some (s.heap, c.args) := by
  rw [Moment.print?]
  exact if_pos (h ▸ rfl)

/-- Operations put nothing out and are no prints. -/
lemma Operates.silent {m} (op : C.Operates scope s m) :
    m.print? = none ∧ m.state.writes = s.writes ∧ m.state.chatter = s.chatter := by
  cases op with
  | look | bind | make | signal => exact ⟨rfl, rfl, rfl⟩

/-- A routine of the host puts out what a print is to put out, and otherwise nothing. -/
lemma transcribes_host {c : Invocation} {name host arity r} (boot : s.heap.Bootstrapped)
    (hk : s.heap.kind? c.callee = some (.primitive name host arity))
    (hr : Eval.runHost true host c.args s = r)
    (he : ∀ f, Eval.error? (Eval.outcome r) ≠ some (.fault f)) :
    s.Transcribes
      ([⟨.invoke c, s⟩, ⟨.step, Eval.final r⟩, ⟨.answer c (Eval.outcome r), Eval.final r⟩].filterMap
        Moment.print?) (Eval.final r) := by
  subst hr
  obtain ⟨hc, rfl⟩ | ⟨hc, op, rfl⟩ := Global.kind?_primitive ((boot ..).1 hk)
  · rw [List.filterMap_cons_some (print?_invoke_printer hc)]
    obtain ⟨f, s', h⟩ | ⟨texts, quoted, ht, hq, h⟩ := Eval.print_cases c.args s
    · exact absurd (congrArg (Eval.error? ∘ Eval.outcome) h) (he f)
    · have hfinal := congrArg Eval.final h
      refine ⟨_, _, .cons ht hq .nil, ?_, ?_⟩
      · exact congrArg State.writes hfinal
      · rw [String.append_empty]
        exact congrArg State.chatter hfinal
  · rw [List.filterMap_cons_none (print?_invoke_of_ne hc), Eval.final_runHost_operator]
    exact .silent rfl rfl

/-- A call that is refused is no print. -/
lemma print?_invoke_of_refused {c : Invocation} {err} (boot : s.heap.Bootstrapped)
    (hr : c.Refused s.heap err) : (⟨.invoke c, s⟩ : Moment).print? = none := by
  refine print?_invoke_of_ne ?_
  cases hr with
  | closure hk _ | primitive hk _ | unwritten hk _ _ => exact boot.ne_printer hk (by simp)

/-- What a path on which prints are traced puts out is the transcript of its prints, unless it is
cut short by a fault. -/
theorem Path.transcribes (path : C.Path true scope s l e s') (boot : s.heap.Bootstrapped)
    (he : ∀ f, e ≠ some (.fault f)) : s.Transcribes (l.filterMap Moment.print?) s' := by
  induction path with
  | done | raise => exact .silent rfl rfl
  | append path₁ _ ih₁ ih₂ =>
    rw [List.filterMap_append]
    exact (ih₁ boot fun _ h => by cases h).trans (ih₂ (boot.along path₁) he)
  | operate op =>
    obtain ⟨hprint, hwrites, hchatter⟩ := op.silent
    rw [List.filterMap_cons_none hprint]
    exact .silent hwrites hchatter
  | evaluate _ _ _ ih =>
    rw [filterMap_between rfl rfl]
    exact ih boot he
  | invoke _ hk _ _ ih =>
    have hne := boot.ne_printer hk (by simp)
    rw [filterMap_between (print?_invoke_of_ne hne) rfl]
    exact ih boot he
  | frame _ _ _ hs _ ih =>
    subst hs
    rw [List.filterMap_cons_none rfl, filterMap_between rfl rfl]
    exact ih (boot.push (by simp [Object.Kind.shape])) he
  | host _ hk _ hr =>
    exact transcribes_host boot hk hr fun f h => he f (by rw [h]; rfl)
  | refuse _ hr =>
    rw [List.filterMap_cons_none (print?_invoke_of_refused boot hr)]
    exact .silent rfl rfl

end Contract

namespace Report

/-- A verbose report shows the site of a failure that it concludes, unless it comes to a fault. -/
lemma conclude_of_verbose {r : Report} {scope : Ref} {f : Failure} {n : Node} {s : State}
    (verbose : r.verbose = true) (hsite : f.site = some n)
    (hends : ∀ fault, (r.conclude scope f s).ending ≠ .fault fault) :
    ∃ closing, Ending.Closes (.error (.failure f)) (r.conclude scope f s).ending closing ∧
      (r.conclude scope f s).state = { s with chatter := s.chatter ++ closing } := by
  have htrace : r.traceFailure f = .line [n.illustrate f.kind.name] := by
    simp only [traceFailure, hsite, trace, verbose, if_true]
  simp only [conclude, complain_enter, htrace] at hends ⊢
  cases hn : n.illustrate f.kind.name with
  | error fault =>
    simp only [hn, Printout.line] at hends
    exact absurd rfl (hends fault)
  | ok text =>
    refine ⟨text ++ "\n", ?_⟩
    simp only [Printout.line]
    cases (r.noting f).full with
    | true => exact ⟨.enough hsite hn, rfl⟩
    | false => exact ⟨.failure hsite hn, rfl⟩

end Report

/-- A run that ended in a return or over a failure of the language. -/
inductive Ending.Ordinary : Ending → Prop where
  | returned : Ordinary .returned
  | failure {f} : Ordinary (.failure f)
  | enough {kind} : Ordinary (.enough kind)

instance : DecidablePred Ending.Ordinary
  | .returned => .isTrue .returned
  | .failure _ => .isTrue .failure
  | .enough _ => .isTrue .enough
  | .fault _ | .tooDeep => .isFalse (by intro h; cases h)

/-- What a verbose report makes of how the evaluation of a script's body ended. -/
lemma Report.closes_ending {r : Report} {scope : Ref} {e : Result Value}
    (verbose : r.verbose = true)
    (hsite : ∀ f, Eval.outcome e = .error (.failure f) → f.site.isSome)
    (ordinary : (r.ending scope e).ending.Ordinary) :
    (∀ fault, Eval.error? (Eval.outcome e) ≠ some (.fault fault)) ∧
      ∃ closing, Ending.Closes (Eval.outcome e) (r.ending scope e).ending closing ∧
        (r.ending scope e).state =
          { Eval.final e with chatter := (Eval.final e).chatter ++ closing } := by
  cases e with
  | ok v s =>
    refine ⟨fun _ h => (by cases h), "", .returned, ?_⟩
    rw [String.append_empty]
    rfl
  | error err s =>
    cases err with
    | failure f =>
      obtain ⟨n, hn⟩ := Option.isSome_iff_exists.1 (hsite f rfl)
      refine ⟨fun _ h => (by cases h), conclude_of_verbose verbose hn fun fault hf => ?_⟩
      have hfault : (r.ending scope (.error (.failure f) s)).ending = .fault fault := hf
      rw [hfault] at ordinary
      cases ordinary
    | fault | tooDeep => cases ordinary

namespace Script

/-- A run starts with the primitives of a fresh global scope, and a verbose report says so much
about the script as how long it is. -/
lemma start_of_verbose {script : Script} {body line} (hbody : script.body = .block body line)
    {report : Report} (verbose : report.verbose = true) :
    script.start report = ⟨Global.prepare .empty, 0, [],
      "Evaluating script of " ++ Text.digits body.length ++ " top-level instructions\n"⟩ := by
  have hopening : (report.info [.ok "Evaluating script of", .ok (Text.digits body.length),
      .ok "top-level instructions"]).text =
        "Evaluating script of " ++ Text.digits body.length ++ " top-level instructions\n" := by
    have hhead : "Evaluating script of " = "Evaluating script of" ++ " " := rfl
    have htail : " top-level instructions\n" = " " ++ ("top-level instructions" ++ "\n") := rfl
    rw [Report.info, if_pos verbose, hhead, htail, ← String.append_assoc]
    generalize Text.digits body.length = count
    rfl
  rw [start, hbody]
  dsimp only
  rw [hopening]

/-- A failure that ends the evaluation of a script's body has a site. -/
lemma isSome_site_watch (script : Script) (depth : Nat) (report : Report) :
    ∀ f, Eval.outcome (script.watch depth report).2 = .error (.failure f) → f.site.isSome := by
  intro f hf
  have path : Contract.any.Path report.verbose scope (script.start report)
      (script.watch depth report).1 (Eval.error? (Eval.outcome (script.watch depth report).2)) _ :=
    Contract.path_watch depth report Contract.starts_any trivial
  rw [hf] at path
  exact path.isSome_site rfl

/-- A run with a verbose report that ends in a return or over a failure: the sink gets one line for
each print, the console says how long the script is, then shows the same arguments print by print,
quoted, and at last the site of the failure, if there was one. Neither gets anything else. -/
theorem outputs_transcribed (script : Script) (depth : Nat) (report : Report) {body line}
    (hbody : script.body = .block body line) (verbose : report.verbose = true)
    (ordinary : (interpret depth report script).ending.Ordinary) :
    ∃ writes out closing,
      Transcript (script.prints depth report) writes out ∧
      writes.length = (script.prints depth report).length ∧
      Ending.Closes
        (Eval.outcome (evaluate true depth script.body scope (script.start report)))
        (interpret depth report script).ending closing ∧
      (interpret depth report script).state.writes = writes ∧
      (interpret depth report script).state.chatter =
        "Evaluating script of " ++ Text.digits body.length ++ " top-level instructions\n" ++ out ++
          closing := by
  have hblock : script.body.kind = .block := by
    rw [hbody]
    rfl
  have boot : (script.start report).heap.Bootstrapped := by
    rw [heap_start]
    exact fun _ _ _ _ => Iff.rfl
  have hprints : script.prints depth report =
      (script.watch depth report).1.filterMap Moment.print? := by
    rw [prints, history, if_pos hblock]
    rfl
  have path : Contract.any.Path report.verbose scope (script.start report)
      (script.watch depth report).1 _ _ :=
    Contract.path_watch depth report Contract.starts_any trivial
  rw [verbose] at path
  rw [interpret_eq_ending script depth report hblock] at ordinary ⊢
  obtain ⟨hfault, closing, closes, hstate⟩ :=
    report.closes_ending verbose (script.isSome_site_watch depth report) ordinary
  obtain ⟨writes, out, log, hwrites, hchatter⟩ := path.transcribes boot hfault
  have hstart := start_of_verbose hbody verbose
  rw [hprints, hstate]
  refine ⟨writes, out, closing, log, log.length_eq, ?_, ?_, ?_⟩
  · rw [← verbose, ← script.watch_result depth report]
    exact closes
  · rw [hwrites, hstart, List.nil_append]
  · rw [hchatter, hstart]

/-- A script that prints an object under another name of `print`, then a second time, as a method of
the object, which has got a field more by then, and last calls something that is no function. -/
def aliasedPrint : Script :=
  ⟨.block
    [.assign "o" (.object [("n", .literal (.str "a") 1)] 1) true 1,
      .assign "show" (.var "print" 2) true 2,
      .call (.var "show" 3) [.var "o" 3, .literal (.str "b") 3] 3,
      .setField (.var "o" 4) "say" (.var "show" 4) 4,
      .method (.var "o" 5) "say" [.var "o" 5] 5,
      .call (.var "nobody" 6) [] 6] 1⟩

/-- A report that tells what it can and never gives up. -/
def chattyReport : Report := .new true none

/-- It is printed as it is at either moment. -/
theorem outputs_transcribed_aliasedPrint :
    (interpret 9 chattyReport aliasedPrint).ending.Ordinary ∧
      (∃ writes out closing,
        Transcript (aliasedPrint.prints 9 chattyReport) writes out ∧
        writes.length = (aliasedPrint.prints 9 chattyReport).length ∧
        Ending.Closes
          (Eval.outcome (evaluate true 9 aliasedPrint.body scope (aliasedPrint.start chattyReport)))
          (interpret 9 chattyReport aliasedPrint).ending closing ∧
        (interpret 9 chattyReport aliasedPrint).state.writes = writes ∧
        (interpret 9 chattyReport aliasedPrint).state.chatter =
          "Evaluating script of " ++ Text.digits 6 ++ " top-level instructions\n" ++ out ++ closing) ∧
      (interpret 9 chattyReport aliasedPrint).state.writes =
        ["\x7bn: a\x7d b\n", "\x7bn: a, say: function print\x7d\n"] ∧
      (interpret 9 chattyReport aliasedPrint).state.chatter =
        "Evaluating script of 6 top-level instructions\n" ++
          "print called with [\x7bn: a\x7d, 'b']\n" ++
          "print called with [\x7bn: a, say: function print\x7d]\n" ++
          "     6 | nobody()   <-- NotCallable\n" := by
  have ordinary : (interpret 9 chattyReport aliasedPrint).ending.Ordinary := by decide +kernel
  have hprinted := outputs_transcribed aliasedPrint 9 chattyReport rfl rfl ordinary
  exact ⟨ordinary, hprinted, by decide +kernel, by decide +kernel⟩

end Script

end Scriptlet

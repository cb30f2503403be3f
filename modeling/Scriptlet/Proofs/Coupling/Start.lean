import Scriptlet.Proofs.Coupling.Evaluate
import Scriptlet.Proofs.Path.Start

/-!
# Two runs from the start

Every run of a script starts with the same heap, so in two runs from the start an object stands for
itself, and so does a signal. That is so whatever nodes stand for each other, as long as they match,
and whether the reports are verbose or not. So two runs of scripts whose bodies stand for each other
end alike (`Script.ends_alike`), with heaps that differ in the code of closures at most
(`Coupling.States.map_objects`).
-/

namespace Scriptlet

namespace Coupling

variable {N : Node → Node → Prop} (hN : ∀ {n n'}, N n n' → n.Matches N n') (chatty chatty' : Bool)

/-- Two runs from the start, in which everything but nodes stands for itself. Nothing is put out
where prints are not traced. -/
def fromStart : Coupling where
  refs := Eq
  signals := Eq
  nodes := N
  left_unique h h' := h.symm.trans h'
  right_unique h h' := h.trans h'.symm
  matches_of_nodes := hN
  chatty := chatty
  chatty' := chatty'
  writes := Eq
  chatter out out' := (chatty = false → out = "") ∧ (chatty' = false → out' = "")
  writes_append h := congrArg (· ++ _) h
  chatter_append := by
    rintro out out' text ⟨h, h'⟩
    exact ⟨fun hc => by simp [h hc, hc], fun hc => by simp [h' hc, hc]⟩

variable {hN chatty chatty'} {s s' : State}

/-- Runs that start alike have the same references throughout. -/
lemma fromStart_inPlace : ((fromStart hN chatty chatty').upTo s).InPlace :=
  ⟨fun h => h.1, id⟩

namespace States

variable (states : (fromStart hN chatty chatty').States s s')
include states

/-- The heaps are the same in every respect in which corresponding objects are. -/
lemma map_objects {β : Type} {f : Object → β}
    (hf : ∀ r o o', ((fromStart hN chatty chatty').upTo s).Objects r r o o' → f o = f o') :
    s.heap.objects.map f = s'.heap.objects.map f := by
  have hsize : s.heap.size = s'.heap.size := congrArg Ref.index (states.fresh 0)
  apply Array.ext_getElem?
  intro i
  rw [Array.getElem?_map, Array.getElem?_map]
  by_cases hi : i < s.heap.size
  · obtain ⟨o, o', ho, ho', alike⟩ := states.between ⟨i⟩ ⟨i⟩ ⟨rfl, hi⟩
    have ho : s.heap.objects[i]? = some o := ho
    have ho' : s'.heap.objects[i]? = some o' := ho'
    rw [ho, ho']
    exact congrArg some (hf _ _ _ alike)
  · have hi' : ¬ i < s'.heap.size := hsize ▸ hi
    rw [Array.getElem?_eq_none (Nat.le_of_not_lt hi), Array.getElem?_eq_none (Nat.le_of_not_lt hi')]

/-- Runs that start alike have made as many signals. -/
lemma signals_eq : s.signals = s'.signals := states.signals 0

end States

end Coupling

namespace Script

/-- Scripts start in the same state, but for the console. -/
lemma start_eq (script : Script) (report : Report) :
    script.start report = ⟨Global.prepare .empty, 0, [], (script.start report).chatter⟩ := by
  rw [start]
  split <;> rfl

/-- Nothing is on the console when a script starts with a report that is not verbose. -/
lemma chatter_start (script : Script) {report : Report} (hq : report.verbose = false) :
    (script.start report).chatter = "" := by
  rw [start]
  split
  · simp [Report.info, hq]
  · rfl

variable {N : Node → Node → Prop} (hN : ∀ {n n'}, N n n' → n.Matches N n')
  (script script' : Script) (report report' : Report)

/-- Any two scripts start in states that correspond. -/
lemma states_start :
    (Coupling.fromStart hN report.verbose report'.verbose).States (script.start report)
      (script'.start report') := by
  have hchatter : (report.verbose = false → (script.start report).chatter = "") ∧
      (report'.verbose = false → (script'.start report').chatter = "") :=
    ⟨script.chatter_start, script'.chatter_start⟩
  rw [script.start_eq report, script'.start_eq report']
  refine ⟨?_, fun _ => rfl, fun _ => rfl, rfl, hchatter⟩
  rintro r _ ⟨rfl, hr⟩
  obtain ⟨k, hk⟩ := Option.isSome_iff_exists.1 (Heap.kind?_isSome_iff.2 hr)
  obtain ⟨o, ho, rfl⟩ := Option.map_eq_some_iff.1 hk
  refine ⟨o, o, ho, ho, ?_⟩
  obtain ⟨rfl, rfl⟩ | ⟨entry, _, rfl⟩ := Global.get?_prepare ho
  · refine ⟨.outermost, List.forall₂_same.2 fun b hb => ⟨rfl, ?_⟩⟩
    obtain ⟨t, e, _, ht⟩ := Global.mem_bindings hb
    exact e ▸ .ref ⟨rfl, ht⟩
  · exact ⟨.primitive, .nil⟩

/-- Two scripts whose bodies stand for each other end alike. -/
theorem ends_alike (depth : Nat) (hbody : N script.body script'.body) :
    (Coupling.fromStart hN report.verbose report'.verbose).Ends (script.start report).heap.size
      Correspondence.Values
      (evaluate report.verbose depth script.body scope (script.start report))
      (evaluate report'.verbose depth script'.body scope (script'.start report')) := by
  have states := script.states_start hN script' report report'
  have hscope : scope.index < (script.start report).heap.size := by
    rw [script.heap_start]
    exact Global.scope_isEnvironment.lt_size
  exact Coupling.evaluate depth states hbody ⟨rfl, hscope⟩

end Script

end Scriptlet

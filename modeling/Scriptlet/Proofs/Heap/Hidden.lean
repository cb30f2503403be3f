import Scriptlet.Proofs.Heap.Keeps
import Scriptlet.Proofs.Heap.Reach

/-!
# Hidden objects

Objects are hidden in a regular heap when none of its objects refers to them. A value is clear of
them when it does not refer to them either, and to nothing that is not there. What is looked up is
clear, and as long as only clear values are bound and put into new objects, hidden objects stay
hidden: a heap in which nothing is hidden thus stays regular.

Main statements:
* `Heap.Hides.push`, `Heap.Hides.register`, `Heap.Hides.prepare`: what leaves objects hidden.
* `Heap.Hides.not_hidden_of_reaches`: from clear values no hidden object can be reached.
-/

namespace Scriptlet

/-- After a binding an object refers to what it referred to before and to what was bound. -/
lemma Object.Refers.of_insert {o : Object} {name value t}
    (ht : Object.Refers { o with fields := o.fields.insert name value } t) :
    o.Refers t ∨ value.ref? = some t := by
  cases ht with
  | field hb e =>
    obtain hb | rfl := Fields.mem_insert hb
    · exact .inl (.field hb e)
    · exact .inr e
  | parent e => exact .inl (.parent e)
  | captured e hv => exact .inl (.captured e hv)

/-- A new plain object refers to nothing. -/
lemma Object.not_refers_plain {t} : ¬ Object.Refers ⟨.plain, []⟩ t := by
  intro ht
  cases ht with
  | field hb => cases hb
  | parent e | captured e => cases e

namespace Heap

variable {h h' : Heap} {hidden : Ref → Prop} {v : Value}

/-- A value that refers to what is there, and to nothing that is hidden. -/
def Clear (h : Heap) (hidden : Ref → Prop) (v : Value) : Prop :=
  ∀ r, v.ref? = some r → r.index < h.size ∧ ¬ hidden r

/-- Objects of a regular heap to which none of its objects refers. -/
structure Hides (h : Heap) (hidden : Ref → Prop) : Prop where
  regular : h.Regular
  there : ∀ r, hidden r → r.index < h.size
  unreferred : ∀ r o t, h.get? r = some o → o.Refers t → ¬ hidden t

/-- An object that only a reference of its own leads to. -/
def Isolates (h : Heap) (r : Ref) : Prop :=
  ∀ roots : List Value, (∀ v ∈ roots, v.ref? ≠ some r) → ¬ h.Reaches roots r

/-- Where nothing is hidden, to be clear is to refer to what is there. -/
lemma clear_iff_live : h.Clear (fun _ => False) v ↔ h.Live v := by
  simp only [Clear, Live, not_false_eq_true, and_true]

/-- The empty heap is regular. -/
lemma regular_empty : Heap.empty.Regular := by
  have hnone : ∀ r o, Heap.empty.get? r ≠ some o := by
    intro r o ho
    cases ho
  exact ⟨fun r o _ ho => absurd ho (hnone r o), fun r o _ ho => absurd ho (hnone r o)⟩

/-- Nothing is hidden in a regular heap. -/
lemma Regular.hides (regular : h.Regular) : h.Hides fun _ => False :=
  ⟨regular, fun _ => False.elim, fun _ _ _ _ _ => id⟩

namespace Clear

/-- An atom is clear. -/
lemma atom {a} : h.Clear hidden (.atom a) := nofun

/-- A reference to an object that is there and not hidden is clear. -/
lemma of_ref {r : Ref} (hr : r.index < h.size) (hn : ¬ hidden r) : h.Clear hidden (.ref r) := by
  rintro _ ⟨⟩
  exact ⟨hr, hn⟩

/-- What is clear stays clear. -/
lemma mono (clear : h.Clear hidden v) (hle : h ≤ h') : h'.Clear hidden v :=
  fun r hr => (clear r hr).imp_left (lt_size_of_le hle)

/-- What a call unwraps from something clear is clear. -/
lemma result (clear : h.Clear hidden v) : h.Clear hidden v.result := by
  cases v with
  | returning signal v => exact clear
  | atom | ref => exact nofun

end Clear

namespace Hides

variable (hides : h.Hides hidden)
include hides

/-- What an object refers to is clear. -/
lemma clear_of_refers {r o t} (ho : h.get? r = some o) (ht : o.Refers t) :
    h.Clear hidden (.ref t) :=
  .of_ref (hides.regular.live r o t ho ht) (hides.unreferred r o t ho ht)

/-- A new object is not hidden. -/
lemma clear_next (object : Object) : (h.push object).Clear hidden (.ref h.next) := by
  refine .of_ref ?_ fun hn => Nat.lt_irrefl _ (hides.there _ hn)
  rw [size_push]
  exact Nat.lt_succ_self _

/-- Making an object that refers to nothing hidden leaves what is hidden hidden. -/
lemma push {object : Object} (hobject : ∀ t, object.Refers t → h.Clear hidden (.ref t)) :
    (h.push object).Hides hidden := by
  have hlt : ∀ {r : Ref}, r.index < h.size → r.index < (h.push object).size :=
    lt_size_of_le (le_push h object)
  have hrefers : ∀ r o t, (h.push object).get? r = some o → o.Refers t →
      h.Clear hidden (.ref t) := by
    intro r o t ho ht
    obtain ho | ⟨_, rfl⟩ := get?_push_cases ho
    · exact hides.clear_of_refers ho ht
    · exact hobject t ht
  refine ⟨⟨?_, ?_⟩, fun r hr => hlt (hides.there r hr), ?_⟩
  · exact fun r o t ho ht => hlt (hrefers r o t ho ht t rfl).1
  · intro r o p ho e
    obtain ho | ⟨rfl, rfl⟩ := get?_push_cases ho
    · exact hides.regular.older r o p ho e
    · exact (hobject p (.parent e) p rfl).1
  · exact fun r o t ho ht => (hrefers r o t ho ht t rfl).2

/-- Binding something clear leaves what is hidden hidden. -/
lemma register {r : Ref} {name} (clear : h.Clear hidden v) :
    (h.register r name v).Hides hidden := by
  have hsize : (h.register r name v).size = h.size := size_register ..
  -- the object whose field is bound keeps its kind, and refers to nothing else but the value
  have hcases : ∀ s o, (h.register r name v).get? s = some o →
      ∃ old, h.get? s = some old ∧ o.kind = old.kind ∧
        ∀ t, o.Refers t → old.Refers t ∨ v.ref? = some t := by
    intro s o ho
    by_cases hrs : r = s
    · subst hrs
      rw [get?_register_self] at ho
      obtain ⟨old, hold, rfl⟩ := Option.map_eq_some_iff.1 ho
      exact ⟨old, hold, rfl, fun t => Object.Refers.of_insert⟩
    · rw [get?_register_of_ne hrs] at ho
      exact ⟨o, ho, rfl, fun t => .inl⟩
  have hrefers : ∀ s o t, (h.register r name v).get? s = some o → o.Refers t →
      t.index < h.size ∧ ¬ hidden t := by
    intro s o t ho ht
    obtain ⟨old, hold, _, hold'⟩ := hcases s o ho
    obtain ht | e := hold' t ht
    · exact hides.clear_of_refers hold ht t rfl
    · exact clear t e
  refine ⟨⟨?_, ?_⟩, ?_, fun s o t ho ht => (hrefers s o t ho ht).2⟩
  · exact fun s o t ho ht => hsize ▸ (hrefers s o t ho ht).1
  · intro s o p ho e
    obtain ⟨old, hold, hkind, _⟩ := hcases s o ho
    exact hides.regular.older s old p hold (hkind.symm.trans e)
  · exact fun s hs => hsize ▸ hides.there s hs

/-- What is looked up is clear. -/
lemma clear_lookup (r : Ref) (name : String) : h.Clear hidden (h.lookup r name) := by
  obtain e | ⟨s, o, ho, b, hb, e⟩ := lookup_cases h r name
  · exact e ▸ .atom
  · rw [← e]
    exact fun t ht => hides.clear_of_refers ho (.field hb ht) t rfl

/-- From clear values no hidden object can be reached. -/
lemma not_hidden_of_reaches {roots : List Value}
    (hroots : ∀ v ∈ roots, ∀ t, v.ref? = some t → ¬ hidden t) {r} (hr : h.Reaches roots r) : ¬ hidden r := by
  cases hr with
  | root hv e => exact hroots _ hv _ e
  | step _ ho ht => exact hides.unreferred _ _ _ ho ht

end Hides

/-- An object that is hidden all by itself is isolated. -/
lemma Hides.isolates {object : Ref} (hides : h.Hides (· = object)) : h.Isolates object := by
  intro roots hroots hr
  refine hides.not_hidden_of_reaches (fun v hv t e => ?_) hr rfl
  rintro rfl
  exact hroots v hv e

end Heap

namespace Global

/-- A global scope that is made leaves what is hidden hidden. -/
lemma hides_prepare {h : Heap} {hidden : Ref → Prop} (hides : h.Hides hidden) : (prepare h).Hides hidden := by
  have hsize := size_prepare h
  have hcases : ∀ r o t, (prepare h).get? r = some o → o.Refers t →
      (∃ r, h.get? r = some o) ∨ h.size ≤ t.index ∧ t.index < (prepare h).size := by
    intro r o t ho ht
    obtain ho | ⟨_, rfl⟩ | ⟨entry, _, rfl⟩ := get?_prepare_cases ho
    · exact .inl ⟨r, ho⟩
    · cases ht with
      | field hb e =>
        obtain ⟨s, hs, hle, hlt⟩ := mem_bindings hb
        obtain rfl : s = t := Option.some.inj ((congrArg Value.ref? hs).symm.trans e)
        exact .inr ⟨hle, hlt⟩
      | parent e | captured e => cases e
    · cases ht with
      | field hb => cases hb
      | parent e | captured e => cases e
  refine ⟨⟨?_, ?_⟩, ?_, ?_⟩
  · intro r o t ho ht
    obtain ⟨s, ho⟩ | ⟨_, hlt⟩ := hcases r o t ho ht
    · have hlt := hides.regular.live s o t ho ht
      omega
    · exact hlt
  · intro r o p ho e
    obtain ho | ⟨_, rfl⟩ | ⟨entry, _, rfl⟩ := get?_prepare_cases ho
    · exact hides.regular.older r o p ho e
    · cases e
    · cases e
  · intro r hr
    have hlt := hides.there r hr
    omega
  · intro r o t ho ht
    obtain ⟨s, ho⟩ | ⟨hle, _⟩ := hcases r o t ho ht
    · exact hides.unreferred s o t ho ht
    · exact fun hn => Nat.not_lt.2 hle (hides.there t hn)

end Global

end Scriptlet

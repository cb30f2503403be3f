import Mathlib.Tactic.Lemma
import Scriptlet.Global
import Scriptlet.Proofs.Heap.Growth

/-!
# The objects of a global scope

A global scope takes the next places of the heap, one for itself and one for each primitive
(`Global.size_prepare`), and leaves what is there as it is (`Global.get?_prepare_of_lt`). So whatever
there is afterwards was there before, or is the scope, or is a primitive (`Global.get?_prepare_cases`),
and what the scope binds at first is one of the new objects (`Global.mem_bindings`).
-/

namespace Scriptlet.Global

variable {h : Heap} {r : Ref}

/-- A global scope takes one place for itself and one for each primitive. -/
lemma size_prepare (h : Heap) : (prepare h).size = h.size + (primitives.length + 1) := by
  simp [prepare, Heap.size, objects]

/-- What is there stays the same when a global scope is made. -/
lemma get?_prepare_of_lt (hr : r.index < h.size) : (prepare h).get? r = h.get? r := by
  have hr' : r.index < h.objects.size := hr
  simp only [Heap.get?, prepare, Array.getElem?_append_left hr']

/-- The next places are those of the objects of the scope. -/
lemma get?_prepare_of_le (hr : h.size ≤ r.index) :
    (prepare h).get? r = (objects h.next)[r.index - h.size]? := by
  have hr' : h.objects.size ≤ r.index := hr
  simp only [Heap.get?, prepare, Array.getElem?_append_right hr', List.getElem?_toArray]
  rfl

/-- What is there stays there when a global scope is made. -/
lemma le_prepare (h : Heap) : h ≤ prepare h := by
  intro r k hk
  rw [Heap.kind?, get?_prepare_of_lt (Heap.lt_size_of_kind? hk)]
  exact hk

/-- An object after a global scope is made was there before, is the scope, or is a primitive. -/
lemma get?_prepare_cases {o} (ho : (prepare h).get? r = some o) :
    h.get? r = some o ∨ r = h.next ∧ o = ⟨.environment none, bindings h.next⟩ ∨
      ∃ entry ∈ primitives, o = ⟨.primitive entry.1 entry.2.1 entry.2.2, []⟩ := by
  by_cases hr : r.index < h.size
  · exact .inl (get?_prepare_of_lt hr ▸ ho)
  · have hle := Nat.le_of_not_lt hr
    rw [get?_prepare_of_le hle] at ho
    right
    cases hi : r.index - h.size with
    | zero =>
      rw [hi] at ho
      have hnext : r.index = h.size := Nat.le_antisymm (Nat.sub_eq_zero_iff_le.1 hi) hle
      exact .inl ⟨congrArg Ref.mk hnext, (Option.some.inj ho).symm⟩
    | succ i =>
      rw [hi, objects, List.getElem?_cons_succ] at ho
      obtain ⟨entry, hentry, rfl⟩ := List.mem_map.1 (List.mem_of_getElem? ho)
      exact .inr ⟨entry, hentry, rfl⟩

/-- What a global scope binds at first is one of its objects. -/
lemma mem_bindings {b} (hb : b ∈ bindings h.next) :
    ∃ t : Ref, b.2 = .ref t ∧ h.size ≤ t.index ∧ t.index < (prepare h).size := by
  rw [size_prepare]
  obtain rfl | hb := List.mem_cons.1 hb
  · exact ⟨h.next, rfl, Nat.le_refl _, Nat.lt_add_of_pos_right (Nat.succ_pos _)⟩
  · obtain ⟨⟨entry, i⟩, hi, rfl⟩ := List.mem_map.1 hb
    have hlt := (List.mem_zipIdx' hi).1
    refine ⟨⟨h.next.index + 1 + i⟩, rfl, ?_⟩
    show h.size ≤ h.size + 1 + i ∧ h.size + 1 + i < h.size + (primitives.length + 1)
    omega

/-- The names that a global scope binds at first are distinct. -/
lemma nodup_names_bindings (scope : Ref) : (bindings scope).names.Nodup := by
  have hnames : (bindings scope).names = (bindings ⟨0⟩).names := rfl
  rw [hnames]
  decide

end Scriptlet.Global
